import ReferenceData.GuidFormats
import ReferenceData.GuidLetters
import ReferenceData.Listings

namespace ReferenceData

open ResultSet

inductive OccupationAnswer where
  | one (occupation : Option Occupation)
  | many (occupations : List Occupation)
  deriving DecidableEq

/-- Too short for an id, or with a letter no id has. Texts with null characters are left out, as
they are in `guidTryParse`. -/
def Words (filter : String) : Prop :=
  (∀ letter ∈ filter.toList, letter.toNat ≠ 0) ∧ ((trimSpace filter.toList).length < 32 ∨
    ∃ letter ∈ filter.toList, isGuidLetter letter = false ∧ isWhiteSpace letter = false)

/-- GET occupation/{filter}, on the text the action receives. A blank segment reaches it as null,
which is no id; the search calls `ToLower` on it and fails. -/
def getOccupationByFilter (collation : Collation) (text : TextInfo)
    (context : ReferenceDataDbContext) : Option String → Option (ActionResult OccupationAnswer)
  | none => none
  | some filter =>
      match guidTryParse filter with
      | some guidOutput => some (.ok (.one (getOccupation context guidOutput)))
      | none => some (.ok (.many (getOccupationsFiltered collation text context filter)))

section Route

variable (collation : Collation) (text : TextInfo) (context : ReferenceDataDbContext)

theorem occupation_by_id_iff (keyed : Keyed Occupation.occupationId context.occupations)
    (format : GuidFormat) (id : Guid) (filter : String) (before after : List Char)
    (front : ∀ letter ∈ before, isWhiteSpace letter = true)
    (back : ∀ letter ∈ after, isWhiteSpace letter = true)
    (same : foldCase filter = before ++ guidText format id ++ after) (o : Occupation) :
    getOccupationByFilter collation text context (some filter) = some (.ok (.one (some o))) ↔
      o ∈ context.occupations ∧ o.occupationId = id := by
  have read := guidTryParse_guidText format id filter before after front back same
  have found := keyed.find_iff id o
  simp only [getOccupationByFilter, read, Option.some.injEq, ActionResult.ok.injEq,
    OccupationAnswer.one.injEq]
  exact found

theorem occupation_by_id_iff_mock :
    getOccupationByFilter asciiCollation.toCollation asciiText occupationMock
        (some " {8BCB41CB-FE61-4694-9352-7E501B6F4898}") =
      some (.ok (.one (some phpSoftwareEngineer))) :=
  (occupation_by_id_iff asciiCollation.toCollation asciiText occupationMock (by decide) .b
    0x8bcb41cbfe61469493527e501b6f4898 " {8BCB41CB-FE61-4694-9352-7E501B6F4898}" [' '] []
    (List.forall_mem_singleton.mpr (by decide)) (List.forall_mem_nil _) (by decide)
    phpSoftwareEngineer).mpr ⟨by decide, rfl⟩

theorem occupation_by_words (filter : String) (words : Words filter) :
    getOccupationByFilter collation text context (some filter) =
      some (.ok (.many (getOccupationsFiltered collation text context filter))) := by
  rw [getOccupationByFilter]
  cases parsed : guidTryParse filter with
  | none => rfl
  | some guid =>
      obtain ⟨long, letters⟩ := guidTryParse_letters filter guid parsed
      rcases words.2 with short | ⟨letter, member, notGuid, notWhite⟩
      · omega
      · rcases letters letter member with guidLetter | white
        · rw [notGuid] at guidLetter
          cases guidLetter
        · rw [notWhite] at white
          cases white

end Route

section Typing

variable (collation : SubstringCollation) (text : TextInfo) (context : ReferenceDataDbContext)

/-- A client which types on sees at every step the eligible occupations described by what it has
typed, each list within those before it. -/
theorem typing_on_route (filters : List String) (words : ∀ filter ∈ filters, Words filter)
    (typed : filters.IsChain (fun f g => (text.toLower f).toList <:+: (text.toLower g).toList)) :
    ∃ shown : List (List Occupation),
      filters.map (fun filter =>
          getOccupationByFilter collation.toCollation text context (some filter)) =
        shown.map (fun occupations => some (.ok (.many occupations))) ∧
      List.Forall₂ (fun filter occupations => ∀ o, o ∈ occupations ↔
        o ∈ context.occupations ∧ Eligible collation.toCollation o ∧
          collation.contains (text.toLower o.description) (text.toLower filter) = true)
        filters shown ∧
      shown.Pairwise (fun first later => later.Sublist first) ∧
      ∀ occupations ∈ shown,
        occupations.Sublist (getOccupations collation.toCollation context) := by
  refine ⟨filters.map (getOccupationsFiltered collation.toCollation text context), ?_, ?_,
    typing_narrows collation text context filters typed, ?_⟩
  · rw [List.map_map]
    apply List.map_congr_left
    intro filter member
    exact occupation_by_words collation.toCollation text context filter (words filter member)
  · apply List.forall₂_map_right_iff.mpr
    apply List.forall₂_same.mpr
    intro filter _ o
    exact mem_getOccupationsFiltered_iff collation.toCollation context text filter o
  · intro occupations member
    obtain ⟨filter, _, rfl⟩ := List.mem_map.mp member
    rw [getOccupationsFiltered_eq]
    exact List.filter_sublist

theorem typing_on_route_mock : ∃ shown : List (List Occupation),
    ["s", "So", "soft"].map (fun filter =>
        getOccupationByFilter asciiCollation.toCollation asciiText occupationMock (some filter)) =
      shown.map (fun occupations => some (.ok (.many occupations))) ∧
    List.Forall₂ (fun filter occupations => ∀ o, o ∈ occupations ↔
      o ∈ occupationMock.occupations ∧ Eligible asciiCollation.toCollation o ∧
        asciiCollation.contains (asciiText.toLower o.description) (asciiText.toLower filter) = true)
      ["s", "So", "soft"] shown ∧
    shown.Pairwise (fun first later => later.Sublist first) ∧
    ∀ occupations ∈ shown,
      occupations.Sublist (getOccupations asciiCollation.toCollation occupationMock) := by
  apply typing_on_route asciiCollation asciiText occupationMock ["s", "So", "soft"] ?_ (by decide)
  intro filter member
  simp only [List.mem_cons, List.not_mem_nil, or_false] at member
  rcases member with rfl | rfl | rfl
  · exact ⟨by simp, Or.inl (by decide)⟩
  · exact ⟨by simp, Or.inl (by decide)⟩
  · exact ⟨by simp, Or.inl (by decide)⟩

end Typing

end ReferenceData
