import Mathlib.Data.Char
import Mathlib.Tactic.Ring

namespace HexText

def digitValue (letter : Char) : Option Nat :=
  let code := letter.toNat
  if 48 ≤ code ∧ code ≤ 57 then some (code - 48)
  else if 97 ≤ code ∧ code ≤ 102 then some (code - 87)
  else if 65 ≤ code ∧ code ≤ 70 then some (code - 55)
  else none

def isDigit (letter : Char) : Bool := (digitValue letter).isSome

theorem isDigit_iff (letter : Char) : isDigit letter = true ↔
    (48 ≤ letter.toNat ∧ letter.toNat ≤ 57) ∨ (97 ≤ letter.toNat ∧ letter.toNat ≤ 102) ∨
      (65 ≤ letter.toNat ∧ letter.toNat ≤ 70) := by
  simp only [isDigit, digitValue]
  by_cases decimal : 48 ≤ letter.toNat ∧ letter.toNat ≤ 57
  · simp [decimal]
  · by_cases lower : 97 ≤ letter.toNat ∧ letter.toNat ≤ 102
    · simp [decimal, lower]
    · by_cases upper : 65 ≤ letter.toNat ∧ letter.toNat ≤ 70
      · simp [decimal, lower, upper]
      · simp [decimal, lower, upper]

/-- Digits read from the left onto what was read before them. -/
def readOnto : Nat → List Char → Option Nat
  | value, [] => some value
  | value, letter :: rest =>
      match digitValue letter with
      | none => none
      | some digit => readOnto (value * 16 + digit) rest

def digit (value : Nat) : Char := if value < 10 then Char.ofNat (48 + value) else Char.ofNat (87 + value)

def fixed : Nat → Nat → List Char
  | 0, _ => []
  | width + 1, value => fixed width (value / 16) ++ [digit (value % 16)]

theorem fixed_length (width value : Nat) : (fixed width value).length = width := by
  induction width generalizing value with
  | zero => rfl
  | succ width ih => rw [fixed, List.length_append, ih, List.length_singleton]

theorem fixed_drop (width value count : Nat) (past : width ≤ count) :
    (fixed width value).drop count = [] :=
  List.drop_eq_nil_of_le (by rw [fixed_length]; exact past)

theorem fixed_take (width value count : Nat) (past : width ≤ count) :
    (fixed width value).take count = fixed width value :=
  List.take_of_length_le (by rw [fixed_length]; exact past)

theorem digitValue_digit : ∀ value < 16, digitValue (digit value) = some value := by decide

theorem readOnto_append (value : Nat) (front back : List Char) :
    readOnto value (front ++ back) = (readOnto value front).bind (fun middle => readOnto middle back) := by
  induction front generalizing value with
  | nil => rfl
  | cons letter front ih =>
      rw [List.cons_append, readOnto, readOnto]
      cases digitValue letter with
      | none => rfl
      | some digit => exact ih (value * 16 + digit)

theorem readOnto_fixed (start width value : Nat) :
    readOnto start (fixed width value) = some (start * 16 ^ width + value % 16 ^ width) := by
  induction width generalizing value with
  | zero => simp [fixed, readOnto, Nat.mod_one]
  | succ width ih =>
      have last := digitValue_digit (value % 16) (Nat.mod_lt _ (by decide))
      have split : value % 16 ^ (width + 1) = value / 16 % 16 ^ width * 16 + value % 16 := by
        rw [Nat.pow_succ', Nat.mod_mul]
        omega
      rw [fixed, readOnto_append, ih, Option.bind_some, readOnto, last, split, Nat.pow_succ]
      simp only [readOnto, Option.some.injEq]
      rw [Nat.add_mul, Nat.mul_assoc, Nat.add_assoc]

theorem fixed_isDigit (width value : Nat) : ∀ letter ∈ fixed width value, isDigit letter = true := by
  induction width generalizing value with
  | zero =>
      intro letter member
      cases member
  | succ width ih =>
      intro letter member
      rcases List.mem_append.mp member with front | last
      · exact ih (value / 16) letter front
      · rw [List.mem_singleton.mp last, isDigit, digitValue_digit _ (Nat.mod_lt _ (by decide))]
        rfl

theorem readOnto_isDigit (start value : Nat) (text : List Char)
    (read : readOnto start text = some value) : ∀ letter ∈ text, isDigit letter = true := by
  induction text generalizing start with
  | nil =>
      intro letter member
      cases member
  | cons head text ih =>
      rw [readOnto] at read
      cases found : digitValue head with
      | none =>
          rw [found] at read
          cases read
      | some first =>
          rw [found] at read
          intro letter member
          rcases List.mem_cons.mp member with rfl | inside
          · rw [isDigit, found]
            rfl
          · exact ih _ read letter inside

end HexText
