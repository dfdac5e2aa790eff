import ReferenceData.Service

namespace ReferenceData

open Delimited

theorem map_ofList_inj (first second : List (List Char))
    (same : first.map String.ofList = second.map String.ofList) : first = second := by
  have lists := congrArg (List.map String.toList) same
  simpa [List.map_map, Function.comp_def] using lists

theorem map_toList_ofList (values : List String) :
    (values.map String.toList).map String.ofList = values := by
  simp [List.map_map, Function.comp_def]

section Text

variable (separator : Char)

theorem toList_stringJoin (values : List String) :
    (stringJoin separator values).toList = join separator (values.map String.toList) := by
  simp [stringJoin]

theorem split_toList (text : String) :
    (splitRemoveEmpty separator text).map String.toList = splitNonempty separator text.toList := by
  simp [splitRemoveEmpty, List.map_map, Function.comp_def]

theorem split_join_iff (values : List String) :
    splitRemoveEmpty separator (stringJoin separator values) = values ↔
      Representable separator (values.map String.toList) := by
  rw [← splitNonempty_join_iff, splitRemoveEmpty, toList_stringJoin]
  constructor
  · intro returned
    apply map_ofList_inj
    rw [returned, map_toList_ofList]
  · intro returned
    rw [returned, map_toList_ofList]

theorem representable_strings_iff (values : List String) :
    Representable separator (values.map String.toList) ↔
      ∀ value ∈ values, value ≠ "" ∧ separator ∉ value.toList := by
  simp [Representable]

theorem split_representable (text : String) :
    ∀ value ∈ splitRemoveEmpty separator text, value ≠ "" ∧ separator ∉ value.toList := by
  rw [← representable_strings_iff, split_toList]
  exact splitNonempty_representable separator text.toList

theorem split_join_split (text : String) :
    splitRemoveEmpty separator (stringJoin separator (splitRemoveEmpty separator text)) =
      splitRemoveEmpty separator text := by
  calc
    _ = (splitNonempty separator (join separator (splitNonempty separator text.toList))).map
        String.ofList := by
      rw [splitRemoveEmpty, toList_stringJoin, split_toList]
    _ = splitRemoveEmpty separator text := by
      rw [splitNonempty_join_splitNonempty]
      rfl

theorem join_split_iff (text : String) :
    stringJoin separator (splitRemoveEmpty separator text) = text ↔
      text = "" ∨ Tight separator text.toList := by
  have emptyText : text.toList = [] ↔ text = "" := by simp
  rw [← emptyText, ← join_splitNonempty_iff, ← split_toList, ← toList_stringJoin]
  exact String.toList_inj.symm

end Text

/-- The conversion is lossless on exactly the lists of non-empty comma-free types, settles
after one load, and gives back exactly the texts without stray commas. -/
theorem uwTypes_conversion :
    (∀ v : List String, decodeUWTypes (encodeUWTypes v) = v ↔
      ∀ uwType ∈ v, uwType ≠ "" ∧ ',' ∉ uwType.toList) ∧
    (∀ s : String, (∀ uwType ∈ decodeUWTypes s, uwType ≠ "" ∧ ',' ∉ uwType.toList) ∧
      decodeUWTypes (encodeUWTypes (decodeUWTypes s)) = decodeUWTypes s) ∧
    (∀ s : String, encodeUWTypes (decodeUWTypes s) = s ↔
      s = "" ∨ (s.toList.head? ≠ some ',' ∧ s.toList.getLast? ≠ some ',' ∧
        ¬ [',', ','] <:+: s.toList)) := by
  refine ⟨?_, ?_, ?_⟩
  · intro v
    exact (split_join_iff ',' v).trans (representable_strings_iff ',' v)
  · intro s
    exact ⟨split_representable ',' s, split_join_split ',' s⟩
  · intro s
    exact join_split_iff ',' s

section Rows

open UnderwritingRequirementsMap

theorem encode_decode_length (text : String) :
    nvarcharLength (encodeUWTypes (decodeUWTypes text)) ≤ nvarcharLength text := by
  have part := join_splitNonempty_sublist ',' text.toList
  rw [← split_toList, ← toList_stringJoin] at part
  exact Nat.add_le_add part.length_le part.countP_le

theorem load_store_load (row : UnderwritingRequirementsMap String) :
    load (store (load row)) = load row := by
  simp only [load, store, encodeUWTypes, decodeUWTypes, split_join_split]

theorem store_load_iff (row : UnderwritingRequirementsMap String) :
    store (load row) = row ↔ row.uwTypes = "" ∨ Tight ',' row.uwTypes.toList := by
  rw [← join_split_iff]
  constructor
  · intro same
    exact congrArg UnderwritingRequirementsMap.uwTypes same
  · intro same
    cases row
    simp only [store, load, mk.injEq, true_and, and_true]
    exact same

variable (context : ReferenceDataDbContext)

def rewritten : ReferenceDataDbContext :=
  { context with
    underwritingRequirementsMap := (getUnderwritingRequirementsMap context).map store }

/-- Writing back what was read fits where the old texts did, changes nothing that is served
afterwards, is done once and for all, and leaves the table as it was just when no row had a
stray comma. -/
theorem underwriting_rewritten (limit : Nat)
    (fits : ∀ row ∈ context.underwritingRequirementsMap, nvarcharLength row.uwTypes ≤ limit) :
    (∀ row ∈ (rewritten context).underwritingRequirementsMap,
      nvarcharLength row.uwTypes ≤ limit) ∧
    getUnderwritingRequirementsMap (rewritten context) = getUnderwritingRequirementsMap context ∧
    rewritten (rewritten context) = rewritten context ∧
    ((rewritten context).underwritingRequirementsMap = context.underwritingRequirementsMap ↔
      ∀ row ∈ context.underwritingRequirementsMap,
        row.uwTypes = "" ∨ Tight ',' row.uwTypes.toList) := by
  have served : getUnderwritingRequirementsMap (rewritten context) =
      getUnderwritingRequirementsMap context := by
    simp only [getUnderwritingRequirementsMap, rewritten, List.map_map]
    apply List.map_congr_left
    intro row _
    exact load_store_load row
  refine ⟨?_, served, ?_, ?_⟩
  · intro row member
    obtain ⟨loaded, inside, rfl⟩ := List.mem_map.mp member
    obtain ⟨stored, original, rfl⟩ := List.mem_map.mp inside
    exact (encode_decode_length stored.uwTypes).trans (fits stored original)
  · rw [rewritten, served]
    rfl
  · rw [rewritten, getUnderwritingRequirementsMap, List.map_map]
    constructor
    · intro same row member
      have unchanged := List.map_inj_left.mp (same.trans (List.map_id _).symm) row member
      exact (store_load_iff row).mp unchanged
    · intro tight
      apply (List.map_congr_left _).trans (List.map_id _)
      intro row member
      exact (store_load_iff row).mpr (tight row member)

def medicalRow : UnderwritingRequirementsMap String :=
  ⟨0x9a3f0b1c2d3e4f5061728394a5b6c7d8, some 12, "Medical examination", "MED", "MED", "MEDEX",
    some "MED", some "Medical examination", some "Medical", none, "", true, "NURSE,,DOCTOR",
    "DOCTOR", false, true⟩

def underwritingMock : ReferenceDataDbContext :=
  { ReferenceDataDbContext.empty with underwritingRequirementsMap := [medicalRow] }

theorem underwriting_rewritten_mock :
    getUnderwritingRequirementsMap (rewritten underwritingMock) =
      getUnderwritingRequirementsMap underwritingMock :=
  (underwriting_rewritten underwritingMock 1024 (List.forall_mem_singleton.mpr (by decide))).2.1

end Rows

example : decodeUWTypes ",NURSE,,DOCTOR," = ["NURSE", "DOCTOR"] := by decide

end ReferenceData
