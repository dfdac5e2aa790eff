import ReferenceData.BenefitMapScript
import ReferenceData.Library.Sql.Materialise

namespace ReferenceData

open Sql

/-- How a text column keeps what is assigned to it. One of a fixed length is filled up with
blanks; no script compares such a column, and here they are put in where its rows are read. -/
inductive TextType where
  | varying
  | fixed (length : Nat)
  deriving DecidableEq

def TextType.kept : TextType → String → String
  | .varying, text => text
  | .fixed length, text => text ++ String.ofList (List.replicate (length - nvarcharLength text) ' ')

section Blanks

variable (length : Nat) (text : String)

theorem kept_toList : ((TextType.fixed length).kept text).toList =
    text.toList ++ List.replicate (length - nvarcharLength text) ' ' := by
  simp [TextType.kept]

/-- A text which fits fills its column. -/
theorem kept_length (fits : nvarcharLength text ≤ length) :
    nvarcharLength ((TextType.fixed length).kept text) = length := by
  have blanks : ∀ count, (List.replicate count ' ').countP
      (fun letter => decide (0xffff < letter.toNat)) = 0 := by
    intro count
    rw [List.countP_replicate]
    rfl
  have whole : nvarcharLength ((TextType.fixed length).kept text) =
      nvarcharLength text + (length - nvarcharLength text) := by
    rw [nvarcharLength, kept_toList, List.length_append, List.countP_append, blanks,
      List.length_replicate, nvarcharLength]
    omega
  omega

/-- Under the collation of the context the blanks make no difference to a comparison. -/
theorem kept_equal : asciiCollation.eq ((TextType.fixed length).kept text) text = true := by
  have dropped : ∀ (letters : List Char) (count : Nat),
      (letters ++ List.replicate count ' ').rdropWhile (fun letter => letter == ' ') =
        letters.rdropWhile (fun letter => letter == ' ') := by
    intro letters count
    induction count with
    | zero => rw [List.replicate_zero, List.append_nil]
    | succ count ih =>
        rw [List.replicate_succ', ← List.append_assoc]
        exact (List.rdropWhile_concat_pos _ _ _ rfl).trans ih
  have folded : foldCase ((TextType.fixed length).kept text) =
      foldCase text ++ List.replicate (length - nvarcharLength text) ' ' := by
    rw [foldCase, kept_toList, List.map_append, List.map_replicate]
    rfl
  simp only [asciiCollation, unpadded, folded, dropped, beq_self_eq_true]

end Blanks

section Readers

def readGuid : Option SqlValue → Option Guid
  | some (.uniqueidentifier value) => some value
  | _ => none

def readInt : Option SqlValue → Option Int32
  | some (.int value) => some value
  | _ => none

def readNullableInt : Option SqlValue → Option (Option Int32)
  | none => some none
  | some (.int value) => some (some value)
  | _ => none

def readBit : Option SqlValue → Option Bool
  | some (.bit value) => some value
  | _ => none

/-- A column which `IsRequired` is read without a test for NULL. -/
def readRequired : Option SqlValue → Option String
  | some (.nvarchar value) => some value
  | _ => none

def readOptional : Option SqlValue → Option (Option String)
  | none => some none
  | some (.nvarchar value) => some (some value)
  | _ => none

end Readers

inductive ColumnKind where
  | uniqueidentifier
  | int
  | required
  | optional
  deriving DecidableEq

def Readable : ColumnKind → Option SqlValue → Prop
  | .uniqueidentifier, cell => ∃ value, cell = some (.uniqueidentifier value)
  | .int, cell => ∃ value, cell = some (.int value)
  | .required, cell => ∃ value, cell = some (.nvarchar value)
  | .optional, cell => cell = none ∨ ∃ value, cell = some (.nvarchar value)

section Readable

variable (cell : Option SqlValue)

theorem readGuid_iff (value : Guid) :
    readGuid cell = some value ↔ cell = some (.uniqueidentifier value) := by
  cases cell with
  | none => simp [readGuid]
  | some stored => cases stored <;> simp [readGuid]

theorem readInt_iff (value : Int32) : readInt cell = some value ↔ cell = some (.int value) := by
  cases cell with
  | none => simp [readInt]
  | some stored => cases stored <;> simp [readInt]

theorem readRequired_iff (value : String) :
    readRequired cell = some value ↔ cell = some (.nvarchar value) := by
  cases cell with
  | none => simp [readRequired]
  | some stored => cases stored <;> simp [readRequired]

theorem readOptional_iff (value : Option String) :
    readOptional cell = some value ↔ cell = value.map .nvarchar := by
  cases cell with
  | none => cases value <;> simp [readOptional]
  | some stored => cases stored <;> cases value <;> simp [readOptional]

theorem readable_optional_iff : Readable .optional cell ↔ ∃ value, readOptional cell = some value := by
  simp only [readOptional_iff]
  constructor
  · intro readable
    rcases readable with rfl | ⟨value, rfl⟩
    · exact ⟨none, rfl⟩
    · exact ⟨some value, rfl⟩
  · intro read
    rcases read with ⟨value, rfl⟩
    cases value with
    | none => exact Or.inl rfl
    | some text => exact Or.inr ⟨text, rfl⟩

instance (kind : ColumnKind) : Decidable (Readable kind cell) :=
  match kind with
  | .uniqueidentifier => decidable_of_iff ((readGuid cell).isSome = true) (by
      simp only [Option.isSome_iff_exists, readGuid_iff, Readable])
  | .int => decidable_of_iff ((readInt cell).isSome = true) (by
      simp only [Option.isSome_iff_exists, readInt_iff, Readable])
  | .required => decidable_of_iff ((readRequired cell).isSome = true) (by
      simp only [Option.isSome_iff_exists, readRequired_iff, Readable])
  | .optional => decidable_of_iff ((readOptional cell).isSome = true) (by
      rw [Option.isSome_iff_exists, readable_optional_iff])

end Readable

end ReferenceData
