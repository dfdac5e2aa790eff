import Mathlib.Data.Char
import Mathlib.Data.List.DropRight
import Mathlib.Data.List.Infix
import Mathlib.Data.List.Lex
import ReferenceData.Library.StableSort
import ReferenceData.Library.Delimited
import ReferenceData.Library.DecimalText

namespace ReferenceData

/-- String comparison as the database performs it. The service names no collation of
its own, so every query of one context uses the same one. -/
structure Collation where
  eq : String → String → Bool
  contains : String → String → Bool
  order : StableSort.TotalPreorder String

structure SubstringCollation extends Collation where
  contains_empty : ∀ text, contains text "" = true
  contains_part : ∀ text part whole, part.toList <:+: whole.toList →
    contains text whole = true → contains text part = true

structure EquivalenceCollation extends Collation where
  eq_symm : ∀ left right, eq left right = true → eq right left = true
  eq_trans : ∀ left middle right, eq left middle = true → eq middle right = true →
    eq left right = true

/-- `string.ToLower`, and LOWER on the side of the database. -/
structure TextInfo where
  toLower : String → String
  toLower_empty : toLower "" = ""

namespace Collation

def eqNullable (collation : Collation) (cell : Option String) (text : String) : Bool :=
  match cell with
  | none => false
  | some value => collation.eq value text

def sameNullable (collation : Collation) : Option String → Option String → Bool
  | none, none => true
  | some left, some right => collation.eq left right
  | _, _ => false

/-- `column.Contains(parameter)`: a NULL parameter selects no row. -/
def containsParameter (collation : Collation) (text : String) : Option String → Bool
  | none => false
  | some part => collation.contains text part

end Collation

def foldCase (text : String) : List Char := text.toList.map Char.toLower

/-- `=` overlooks trailing blanks. -/
def unpadded (text : String) : List Char := (foldCase text).rdropWhile (fun letter => letter == ' ')

def foldOrder : StableSort.TotalPreorder String where
  le a b := decide (foldCase a ≤ foldCase b)
  trans a b c first second := by
    simp only [decide_eq_true_eq] at first second ⊢
    exact le_trans first second
  total a b := by
    simp only [decide_eq_true_eq]
    exact le_total _ _

/-- Equality and containment of ASCII text under `SQL_Latin1_General_CP1_CI_AS`, the collation
of the context. -/
def asciiCollation : SubstringCollation where
  eq a b := unpadded a == unpadded b
  contains text part := decide (foldCase part <:+: foldCase text)
  order := foldOrder
  contains_empty text := by
    simp only [decide_eq_true_eq]
    exact List.nil_infix
  contains_part text part whole inside found := by
    simp only [decide_eq_true_eq] at found ⊢
    exact (inside.map Char.toLower).trans found

def asciiEquivalence : EquivalenceCollation where
  toCollation := asciiCollation.toCollation
  eq_symm left right same := by
    simp only [asciiCollation, beq_iff_eq] at same ⊢
    exact same.symm
  eq_trans left middle right first second := by
    simp only [asciiCollation, beq_iff_eq] at first second ⊢
    exact first.trans second

def asciiText : TextInfo where
  toLower text := String.ofList (foldCase text)
  toLower_empty := rfl

/-- The length of a text in an `nvarchar` column, where characters beyond U+FFFF count twice. -/
def nvarcharLength (text : String) : Nat :=
  text.toList.length + text.toList.countP (fun letter => decide (0xffff < letter.toNat))

def isNullOrEmpty : Option String → Bool
  | none => true
  | some text => text == ""

/-- `int.TryParse` under invariant number signs. -/
def intTryParse (text : String) : Option Int32 :=
  match DecimalText.parseInteger text with
  | none => none
  | some value =>
      if -2147483648 ≤ value ∧ value ≤ 2147483647 then some (Int32.ofInt value) else none

def decimalText (value : Int32) : String := toString value.toInt

theorem intTryParse_decimalText (value : Int32) : intTryParse (decimalText value) = some value := by
  have bounds : -2147483648 ≤ value.toInt ∧ value.toInt ≤ 2147483647 := by
    have below := value.le_toInt
    have above := value.toInt_lt
    omega
  simp only [intTryParse, decimalText, DecimalText.parseInteger_toString, if_pos bounds,
    Int32.ofInt_toInt]

theorem decimalText_ne_empty (value : Int32) : decimalText value ≠ "" := by
  intro empty
  have parsed := intTryParse_decimalText value
  rw [empty] at parsed
  cases parsed

def stringJoin (separator : Char) (values : List String) : String :=
  String.ofList (Delimited.join separator (values.map String.toList))

/-- `value.Split(separator, StringSplitOptions.RemoveEmptyEntries)` -/
def splitRemoveEmpty (separator : Char) (value : String) : List String :=
  (Delimited.splitNonempty separator value.toList).map String.ofList

inductive ActionResult (α : Type) where
  | ok (value : α)
  | notFound
  deriving DecidableEq, Repr

/-- `value == null ? NotFound() : Ok(value)` -/
def okOrNotFound {α : Type} : Option α → ActionResult α
  | none => .notFound
  | some value => .ok value

theorem okOrNotFound_eq_ok {α : Type} (found : Option α) (value : α) :
    okOrNotFound found = .ok value ↔ found = some value := by
  cases found <;> simp [okOrNotFound]

end ReferenceData
