import Mathlib.Data.List.TakeWhile
import Mathlib.Data.Int.Basic

namespace DecimalText

/-- The characters skipped around a number: the space and U+0009 to U+000D. -/
def isWhite (letter : Char) : Bool :=
  letter == ' ' || (decide (9 ≤ letter.toNat) && decide (letter.toNat ≤ 13))

def takeSign : List Char → Bool × List Char
  | [] => (false, [])
  | letter :: rest =>
      if letter = '-' then (true, rest) else
      if letter = '+' then (false, rest) else (false, letter :: rest)

/-- Digits, then white space, then nothing but terminating nulls. -/
def parseUnsigned (text : List Char) : Option Nat :=
  let digits := text.takeWhile Char.isDigit
  let trailing := (text.dropWhile Char.isDigit).dropWhile isWhite
  if digits.isEmpty || trailing.any (fun letter => letter.toNat != 0) then none
  else some (Nat.ofDigitChars 10 digits 0)

def parseInteger (text : String) : Option Int :=
  let signed := takeSign (text.toList.dropWhile isWhite)
  (parseUnsigned signed.2).map (fun n => if signed.1 then -(n : Int) else (n : Int))

theorem digit_not_white (letter : Char) (digit : letter.isDigit = true) :
    isWhite letter = false := by
  simp only [Char.isDigit, Bool.and_eq_true, decide_eq_true_eq] at digit
  have lower : 48 ≤ letter.toNat := digit.1
  simp only [isWhite, Bool.or_eq_false_iff, Bool.and_eq_false_iff, decide_eq_false_iff_not,
    beq_eq_false_iff_ne]
  constructor
  · intro space
    rw [space] at lower
    exact absurd lower (by decide)
  · omega

theorem takeSign_digits (letter : Char) (rest : List Char) (digit : letter.isDigit = true) :
    takeSign (letter :: rest) = (false, letter :: rest) := by
  have notMinus : letter ≠ '-' := by
    intro sign
    rw [sign] at digit
    exact absurd digit (by decide)
  have notPlus : letter ≠ '+' := by
    intro sign
    rw [sign] at digit
    exact absurd digit (by decide)
  simp [takeSign, notMinus, notPlus]

theorem parseUnsigned_digits (digits : List Char) (nonempty : digits ≠ [])
    (all : ∀ letter ∈ digits, letter.isDigit = true) :
    parseUnsigned digits = some (Nat.ofDigitChars 10 digits 0) := by
  have taken : digits.takeWhile Char.isDigit = digits := List.takeWhile_eq_self_iff.mpr all
  have dropped : digits.dropWhile Char.isDigit = [] := List.dropWhile_eq_nil_iff.mpr all
  simp [parseUnsigned, taken, dropped, nonempty]

theorem parseUnsigned_toDigits (n : Nat) : parseUnsigned (Nat.toDigits 10 n) = some n := by
  have all : ∀ letter ∈ Nat.toDigits 10 n, letter.isDigit = true := fun letter member =>
    Nat.isDigit_of_mem_toDigits (by decide) (by decide) member
  rw [parseUnsigned_digits _ Nat.toDigits_ne_nil all, Nat.ofDigitChars_ten_toDigits]

theorem parseInteger_natural (text : String) (n : Nat)
    (digits : text.toList = Nat.toDigits 10 n) : parseInteger text = some (n : Int) := by
  obtain ⟨first, rest, shape⟩ := List.exists_cons_of_ne_nil (Nat.toDigits_ne_nil (n := n) (b := 10))
  have firstDigit : first.isDigit = true :=
    Nat.isDigit_of_mem_toDigits (by decide) (by decide)
      (show first ∈ Nat.toDigits 10 n by simp [shape])
  have skipped : (first :: rest).dropWhile isWhite = first :: rest := by
    simp [digit_not_white first firstDigit]
  have value : parseUnsigned (first :: rest) = some n := by
    rw [← shape]
    exact parseUnsigned_toDigits n
  simp only [parseInteger, digits, shape, skipped, takeSign_digits first rest firstDigit, value]
  simp

theorem parseInteger_negative (text : String) (n : Nat)
    (digits : text.toList = '-' :: Nat.toDigits 10 n) : parseInteger text = some (-(n : Int)) := by
  have skipped : ('-' :: Nat.toDigits 10 n).dropWhile isWhite = '-' :: Nat.toDigits 10 n := by
    rw [List.dropWhile_cons_of_neg]
    decide
  simp only [parseInteger, digits, skipped, takeSign, if_true, parseUnsigned_toDigits]
  simp

theorem parseInteger_toString (i : Int) : parseInteger (toString i) = some i := by
  rw [Int.toString_eq_repr, Int.repr_eq_if]
  by_cases nonnegative : 0 ≤ i
  · rw [if_pos nonnegative, parseInteger_natural _ i.toNat Nat.toList_repr,
      Int.toNat_of_nonneg nonnegative]
  · have magnitude : ((-i).toNat : Int) = -i := by omega
    have digits : ("-" ++ (-i).toNat.repr).toList = '-' :: Nat.toDigits 10 (-i).toNat := by
      rw [String.toList_append, Nat.toList_repr]
      rfl
    rw [if_neg nonnegative, parseInteger_negative _ _ digits, magnitude, Int.neg_neg]

inductive Unsigned : List Char → Nat → Prop
  | mk (digits back nulls : List Char) (nonempty : digits ≠ [])
      (all : ∀ letter ∈ digits, letter.isDigit = true)
      (white : ∀ letter ∈ back, isWhite letter = true)
      (zero : ∀ letter ∈ nulls, letter.toNat = 0) :
      Unsigned (digits ++ (back ++ nulls)) (Nat.ofDigitChars 10 digits 0)

inductive Integer : List Char → Int → Prop
  | bare (front rest : List Char) (n : Nat) (white : ∀ letter ∈ front, isWhite letter = true)
      (number : Unsigned rest n) : Integer (front ++ rest) n
  | plus (front rest : List Char) (n : Nat) (white : ∀ letter ∈ front, isWhite letter = true)
      (number : Unsigned rest n) : Integer (front ++ '+' :: rest) n
  | minus (front rest : List Char) (n : Nat) (white : ∀ letter ∈ front, isWhite letter = true)
      (number : Unsigned rest n) : Integer (front ++ '-' :: rest) (-n)

theorem null_not_white (letter : Char) (zero : letter.toNat = 0) : isWhite letter = false := by
  have notSpace : letter ≠ ' ' := by
    intro space
    rw [space] at zero
    exact absurd zero (by decide)
  simp [isWhite, zero, notSpace]

theorem null_not_digit (letter : Char) (zero : letter.toNat = 0) : letter.isDigit = false := by
  cases digit : letter.isDigit with
  | false => rfl
  | true =>
      simp only [Char.isDigit, Bool.and_eq_true, decide_eq_true_eq] at digit
      have lower : 48 ≤ letter.toNat := digit.1
      omega

theorem span_append (kind : Char → Bool) (front rest : List Char)
    (all : ∀ letter ∈ front, kind letter = true) (none : ∀ letter ∈ rest, kind letter = false) :
    (front ++ rest).takeWhile kind = front ∧ (front ++ rest).dropWhile kind = rest := by
  rw [List.takeWhile_append_of_pos all, List.dropWhile_append_of_pos all]
  cases rest with
  | nil => simp
  | cons letter rest => simp [none letter List.mem_cons_self]

theorem parseUnsigned_of (text : List Char) (n : Nat) (number : Unsigned text n) :
    parseUnsigned text = some n := by
  cases number with
  | mk digits back nulls nonempty all white zero =>
      have behind : ∀ letter ∈ back ++ nulls, letter.isDigit = false := by
        intro letter member
        rcases List.mem_append.mp member with inside | inside
        · cases digit : letter.isDigit with
          | false => rfl
          | true =>
              have dark := digit_not_white letter digit
              rw [white letter inside] at dark
              cases dark
        · exact null_not_digit letter (zero letter inside)
      obtain ⟨taken, dropped⟩ := span_append Char.isDigit digits (back ++ nulls) all behind
      obtain ⟨_, trailing⟩ := span_append isWhite back nulls white
        (fun letter member => null_not_white letter (zero letter member))
      have ended : nulls.any (fun letter => letter.toNat != 0) = false := by
        simpa using zero
      simp [parseUnsigned, taken, dropped, trailing, ended, nonempty]

theorem unsigned_of (text : List Char) (n : Nat) (parsed : parseUnsigned text = some n) :
    Unsigned text n := by
  simp only [parseUnsigned] at parsed
  split at parsed
  · cases parsed
  · rename_i accepted
    rw [Bool.or_eq_true, not_or] at accepted
    cases parsed
    have parts : text = text.takeWhile Char.isDigit ++
        ((text.dropWhile Char.isDigit).takeWhile isWhite ++
          (text.dropWhile Char.isDigit).dropWhile isWhite) := by
      rw [List.takeWhile_append_dropWhile, List.takeWhile_append_dropWhile]
    have number := Unsigned.mk (text.takeWhile Char.isDigit)
      ((text.dropWhile Char.isDigit).takeWhile isWhite)
      ((text.dropWhile Char.isDigit).dropWhile isWhite) (by simpa using accepted.1)
      (fun _ member => List.mem_takeWhile_imp member)
      (fun _ member => List.mem_takeWhile_imp member) (by simpa using accepted.2)
    rw [← parts] at number
    exact number

theorem parseUnsigned_iff (text : List Char) (n : Nat) :
    parseUnsigned text = some n ↔ Unsigned text n :=
  ⟨unsigned_of text n, parseUnsigned_of text n⟩

theorem unsigned_head (text : List Char) (n : Nat) (number : Unsigned text n) :
    ∃ first rest, text = first :: rest ∧ first.isDigit = true := by
  cases number with
  | mk digits back nulls nonempty all _ _ =>
      cases digits with
      | nil => exact absurd rfl nonempty
      | cons first digits =>
          exact ⟨first, digits ++ (back ++ nulls), rfl, all first List.mem_cons_self⟩

theorem dropWhite_append (front : List Char) (first : Char) (rest : List Char)
    (white : ∀ letter ∈ front, isWhite letter = true) (dark : isWhite first = false) :
    (front ++ first :: rest).dropWhile isWhite = first :: rest := by
  rw [List.dropWhile_append_of_pos white]
  simp [dark]

theorem parseInteger_of (text : String) (i : Int) (number : Integer text.toList i) :
    parseInteger text = some i := by
  rw [parseInteger]
  generalize text.toList = letters at number ⊢
  cases number with
  | bare front rest n white number =>
      obtain ⟨first, others, rfl, digit⟩ := unsigned_head rest n number
      rw [dropWhite_append front first others white (digit_not_white first digit),
        takeSign_digits first others digit, parseUnsigned_of _ n number]
      rfl
  | plus front rest n white number =>
      rw [dropWhite_append front '+' rest white (by decide)]
      simp [takeSign, parseUnsigned_of rest n number]
  | minus front rest n white number =>
      rw [dropWhite_append front '-' rest white (by decide)]
      simp [takeSign, parseUnsigned_of rest n number]

theorem integer_of (text : String) (i : Int) (parsed : parseInteger text = some i) :
    Integer text.toList i := by
  have skipped : ∀ letter ∈ text.toList.takeWhile isWhite, isWhite letter = true :=
    fun _ member => List.mem_takeWhile_imp member
  have parts := List.takeWhile_append_dropWhile (p := isWhite) (l := text.toList)
  simp only [parseInteger] at parsed
  obtain ⟨natural, read, value⟩ := Option.map_eq_some_iff.mp parsed
  obtain ⟨n, number, cast⟩ := Option.bind_eq_some_iff.mp read
  cases cast
  rw [parseUnsigned_iff] at number
  rw [← parts]
  cases signed : text.toList.dropWhile isWhite with
  | nil =>
      rw [signed, takeSign] at number value
      rw [← value]
      exact .bare _ [] n skipped number
  | cons letter rest =>
      rw [signed, takeSign] at number value
      by_cases minus : letter = '-'
      · rw [if_pos minus] at number value
        rw [minus, ← value]
        exact .minus _ rest n skipped number
      · rw [if_neg minus] at number value
        by_cases plus : letter = '+'
        · rw [if_pos plus] at number value
          rw [plus, ← value]
          exact .plus _ rest n skipped number
        · rw [if_neg plus] at number value
          rw [← value]
          exact .bare _ (letter :: rest) n skipped number

/-- What is read as a number is a text of that number, and every such text is. -/
theorem parseInteger_iff (text : String) (i : Int) :
    parseInteger text = some i ↔ Integer text.toList i :=
  ⟨integer_of text i, parseInteger_of text i⟩

end DecimalText
