import ReferenceData.OccupationSearch

namespace ReferenceData

open StableSort ResultSet

section Listings

variable (collation : Collation) (context : ReferenceDataDbContext)

theorem listings_isStableSort :
    IsStableSort (collation.order.comap EducationLevel.description) context.educationLevels
      (getEducationLevels collation context) ∧
    IsStableSort (collation.order.comap Industry.description) context.industry
      (getIndustries collation context) ∧
    IsStableSort (collation.order.comap Bank.bankName) context.banks (getBanks collation context) ∧
    IsStableSort (int32Order.comap Nationality.displayOrder) context.nationalities
      (getNationalities context) ∧
    IsStableSort (int32Order.comap InsuranceCompany.displayOrder) context.insuranceCompany
      (getInsuranceCompanies context) :=
  ⟨orderBy_isStableSort _ _, orderBy_isStableSort _ _, orderBy_isStableSort _ _,
    orderBy_isStableSort _ _, orderBy_isStableSort _ _⟩

theorem getEducationLevel_iff (keyed : Keyed EducationLevel.id context.educationLevels) (id : Int32)
    (level : EducationLevel) :
    getEducationLevel context id = some level ↔
      level ∈ getEducationLevels collation context ∧ level.id = id := by
  have listed : level ∈ getEducationLevels collation context ↔ level ∈ context.educationLevels :=
    (orderBy_perm _ _).mem_iff
  rw [listed]
  exact keyed.find_iff id level

theorem mem_getOccupations_iff (o : Occupation) :
    o ∈ getOccupations collation context ↔ o ∈ context.occupations ∧ Eligible collation o := by
  rw [(getOccupations_perm collation context).mem_iff, List.mem_filter, decide_eq_true_iff]

theorem mem_getOccupationsFiltered_iff (text : TextInfo) (filter : String) (o : Occupation) :
    o ∈ getOccupationsFiltered collation text context filter ↔
      o ∈ context.occupations ∧ Eligible collation o ∧
        collation.contains (text.toLower o.description) (text.toLower filter) = true := by
  rw [getOccupationsFiltered_eq, List.mem_filter, mem_getOccupations_iff, and_assoc]
  rfl

/-- An occupation is found by its identifier whether or not it is eligible, and so also where
no listing shows it. -/
theorem getOccupation_iff (keyed : Keyed Occupation.occupationId context.occupations) (id : Guid)
    (o : Occupation) :
    getOccupation context id = some o ↔ o.occupationId = id ∧
      (o ∈ getOccupations collation context ∨
        (o ∈ context.occupations ∧ ¬ Eligible collation o)) := by
  have found := keyed.find_iff id o
  rw [getOccupation, found, mem_getOccupations_iff]
  constructor
  · intro stored
    refine ⟨stored.2, ?_⟩
    by_cases listed : Eligible collation o
    · exact Or.inl ⟨stored.1, listed⟩
    · exact Or.inr ⟨stored.1, listed⟩
  · intro shown
    rcases shown with ⟨atId, ⟨member, _⟩ | ⟨member, _⟩⟩
    · exact ⟨member, atId⟩
    · exact ⟨member, atId⟩

end Listings

end ReferenceData
