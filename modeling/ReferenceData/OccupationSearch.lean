import ReferenceData.Service

namespace ReferenceData

open StableSort

/-- Rated below 6, and of no event class or of another than E999. -/
def Eligible (collation : Collation) (o : Occupation) : Prop :=
  o.rating < 6 ∧ (o.eventClass = none ∨
    ∃ eventClass, o.eventClass = some eventClass ∧ collation.eq eventClass "E999" = false)

theorem eligible_iff (collation : Collation) (o : Occupation) :
    eligible collation o = true ↔ Eligible collation o := by
  cases found : o.eventClass with
  | none => simp [eligible, Eligible, Collation.eqNullable, found]
  | some eventClass => simp [eligible, Eligible, Collation.eqNullable, found]

instance (collation : Collation) : DecidablePred (Eligible collation) :=
  fun o => decidable_of_iff (eligible collation o = true) (eligible_iff collation o)

def describedBy (collation : Collation) (text : TextInfo) (filter : String) (o : Occupation) : Bool :=
  collation.contains (text.toLower o.description) (text.toLower filter)

section Search

variable (collation : Collation) (text : TextInfo) (context : ReferenceDataDbContext)

/-- The two overloads spell the eligibility out separately; the query of the one is the
query of the other with the description tested first. -/
theorem getOccupationsFiltered_eq (filter : String) :
    getOccupationsFiltered collation text context filter =
      (getOccupations collation context).filter (describedBy collation text filter) := by
  have selected : context.occupations.filter (fun o =>
        collation.contains (text.toLower o.description) (text.toLower filter)
          && decide (o.rating < 6) && !collation.eqNullable o.eventClass "E999") =
      (context.occupations.filter (eligible collation)).filter
        (describedBy collation text filter) := by
    rw [List.filter_filter]
    apply List.filter_congr
    intro o _
    simp only [describedBy, eligible, Bool.and_assoc]
  calc
    _ = orderBy (collation.order.comap Occupation.description)
        ((context.occupations.filter (eligible collation)).filter
          (describedBy collation text filter)) := by
      simp only [getOccupationsFiltered, selected]
    _ = (getOccupations collation context).filter (describedBy collation text filter) :=
      orderBy_filter (collation.order.comap Occupation.description) _ _

theorem getOccupations_ordered : (getOccupations collation context).Pairwise
    (fun a b => collation.order.le a.description b.description = true) :=
  orderBy_ordered (collation.order.comap Occupation.description) _

theorem getOccupations_perm : (getOccupations collation context).Perm
    (context.occupations.filter (fun o => decide (Eligible collation o))) := by
  have selected : context.occupations.filter (eligible collation) =
      context.occupations.filter (fun o => decide (Eligible collation o)) := by
    apply List.filter_congr
    intro o _
    rw [Bool.eq_iff_iff, eligible_iff, decide_eq_true_iff]
  rw [← selected]
  exact orderBy_perm (collation.order.comap Occupation.description) _

theorem getOccupationsFiltered_ordered (filter : String) :
    (getOccupationsFiltered collation text context filter).Pairwise
      (fun a b => collation.order.le a.description b.description = true) := by
  rw [getOccupationsFiltered_eq]
  exact (getOccupations_ordered collation context).sublist List.filter_sublist

theorem getOccupationsFiltered_perm (filter : String) :
    (getOccupationsFiltered collation text context filter).Perm
      ((context.occupations.filter (fun o => decide (Eligible collation o))).filter
        (describedBy collation text filter)) := by
  rw [getOccupationsFiltered_eq]
  exact (getOccupations_perm collation context).filter _

theorem getOccupationsFiltered_congr (f g : String) (same : text.toLower f = text.toLower g) :
    getOccupationsFiltered collation text context f =
      getOccupationsFiltered collation text context g := by
  simp only [getOccupationsFiltered, same]

end Search

section Substrings

variable (collation : SubstringCollation) (text : TextInfo) (context : ReferenceDataDbContext)

theorem getOccupationsFiltered_empty :
    getOccupationsFiltered collation.toCollation text context "" =
      getOccupations collation.toCollation context := by
  rw [getOccupationsFiltered_eq]
  apply List.filter_eq_self.mpr
  intro o _
  rw [describedBy, text.toLower_empty]
  exact collation.contains_empty _

theorem describedBy_part (f g : String) (part : (text.toLower f).toList <:+: (text.toLower g).toList)
    (o : Occupation) (described : describedBy collation.toCollation text g o = true) :
    describedBy collation.toCollation text f o = true :=
  collation.contains_part _ _ _ part described

theorem getOccupationsFiltered_sublist (f g : String)
    (part : (text.toLower f).toList <:+: (text.toLower g).toList) :
    (getOccupationsFiltered collation.toCollation text context g).Sublist
      (getOccupationsFiltered collation.toCollation text context f) := by
  have narrowed : getOccupationsFiltered collation.toCollation text context g =
      (getOccupationsFiltered collation.toCollation text context f).filter
        (describedBy collation.toCollation text g) := by
    rw [getOccupationsFiltered_eq, getOccupationsFiltered_eq, List.filter_filter]
    apply List.filter_congr
    intro o _
    cases described : describedBy collation.toCollation text g o with
    | false => rfl
    | true => simp [describedBy_part collation text f g part o described]
  rw [narrowed]
  exact List.filter_sublist

theorem typing_narrows (filters : List String)
    (typed : filters.IsChain (fun f g => (text.toLower f).toList <:+: (text.toLower g).toList)) :
    (filters.map (getOccupationsFiltered collation.toCollation text context)).Pairwise
      (fun shown next => next.Sublist shown) := by
  have trans : IsTrans String (fun f g => (text.toLower f).toList <:+: (text.toLower g).toList) :=
    ⟨fun _ _ _ first second => first.trans second⟩
  apply List.pairwise_map.mpr
  apply (List.isChain_iff_pairwise.mp typed).imp
  intro f g part
  exact getOccupationsFiltered_sublist collation text context f g part

theorem occupation_search_restricts :
    (∀ f, getOccupationsFiltered collation.toCollation text context f =
      (getOccupations collation.toCollation context).filter (fun o =>
        collation.contains (text.toLower o.description) (text.toLower f))) ∧
    (getOccupations collation.toCollation context).Pairwise
      (fun a b => collation.order.le a.description b.description = true) ∧
    (getOccupations collation.toCollation context).Perm
      (context.occupations.filter (fun o => decide (Eligible collation.toCollation o))) ∧
    (∀ f, (getOccupationsFiltered collation.toCollation text context f).Pairwise
        (fun a b => collation.order.le a.description b.description = true) ∧
      (getOccupationsFiltered collation.toCollation text context f).Perm
        ((context.occupations.filter (fun o => decide (Eligible collation.toCollation o))).filter
          (fun o => collation.contains (text.toLower o.description) (text.toLower f)))) ∧
    getOccupationsFiltered collation.toCollation text context "" =
      getOccupations collation.toCollation context ∧
    (∀ f g, text.toLower f = text.toLower g →
      getOccupationsFiltered collation.toCollation text context f =
        getOccupationsFiltered collation.toCollation text context g) ∧
    (∀ f g, (text.toLower f).toList <:+: (text.toLower g).toList →
      (getOccupationsFiltered collation.toCollation text context g).Sublist
        (getOccupationsFiltered collation.toCollation text context f)) := by
  refine ⟨?_, ?_, ?_, ?_, ?_, ?_, ?_⟩
  · exact getOccupationsFiltered_eq collation.toCollation text context
  · exact getOccupations_ordered collation.toCollation context
  · exact getOccupations_perm collation.toCollation context
  · intro f
    exact ⟨getOccupationsFiltered_ordered collation.toCollation text context f,
      getOccupationsFiltered_perm collation.toCollation text context f⟩
  · exact getOccupationsFiltered_empty collation text context
  · exact getOccupationsFiltered_congr collation.toCollation text context
  · exact getOccupationsFiltered_sublist collation text context

end Substrings

section Mock

def softwareEngineer : Occupation :=
  ⟨0x3e0429b002144c18890660a12064ec24, 31804, "Software Engineer", 4, 11, some "N", some "E1", 0⟩
def phpSoftwareEngineer : Occupation :=
  ⟨0x8bcb41cbfe61469493527e501b6f4898, 31802, "PHP Software Engineer", 3, 11, some "N", some "E999", 0⟩
def accountant : Occupation :=
  ⟨0x4ee06b7ab1b34524b2d7b7d7f738c8e3, 30749, "Accountant", 1, 11, some "N", some "E1", 0⟩

/-- Rows of the mocked context of the service tests. -/
def occupationMock : ReferenceDataDbContext :=
  { ReferenceDataDbContext.empty with
    occupations := [softwareEngineer, phpSoftwareEngineer, accountant] }

example : getOccupationsFiltered asciiCollation.toCollation asciiText occupationMock "soft" =
    [softwareEngineer] := by decide

end Mock

end ReferenceData
