import ReferenceData.BankListing

namespace ReferenceData

open ResultSet

variable (collation : Collation) (context : KeyedDbContext)

theorem bankBranchRoute_ok_iff (segment : String) (bankBranchId : Int32) (branch : BankBranches) :
    bankBranchRoute context segment bankBranchId = .ok branch ↔
      branch ∈ context.bankBranches ∧ branch.bankBranchId = bankBranchId := by
  simp only [bankBranchRoute, getBankBranchAsync, okOrNotFound_eq_ok, getBankBranch,
    List.head?_filter]
  exact context.bankBranches_keyed.find_iff bankBranchId branch

theorem bankBranchRoute_notFound_iff (segment : String) (bankBranchId : Int32) :
    bankBranchRoute context segment bankBranchId = .notFound ↔
      ∀ branch ∈ context.bankBranches, branch.bankBranchId ≠ bankBranchId := by
  cases answer : bankBranchRoute context segment bankBranchId with
  | ok branch =>
      have found := (bankBranchRoute_ok_iff context segment bankBranchId branch).mp answer
      constructor
      · intro missing
        cases missing
      · intro absent
        exact absurd found.2 (absent branch found.1)
  | notFound =>
      constructor
      · intro _ branch member same
        have found := (bankBranchRoute_ok_iff context segment bankBranchId branch).mpr ⟨member, same⟩
        rw [answer] at found
        cases found
      · intro _
        rfl

theorem collection_member_iff (segment : String) (branch : BankBranches) :
    (∃ rows, filterBankBranchesForBankIdAsync collation context segment none = .ok rows ∧
        branch ∈ rows) ↔
      branch ∈ context.bankBranches ∧ Denotes collation context segment branch.bankId := by
  by_cases named : ∃ bankId, Denotes collation context segment bankId
  · rcases named with ⟨bankId, denotes⟩
    rcases collection_lists collation context segment bankId none rfl denotes with
      ⟨rows, returned, listed⟩
    constructor
    · intro shown
      rcases shown with ⟨others, returnedToo, member⟩
      rw [returned] at returnedToo
      cases returnedToo
      have own := (listed.exact branch).mp member
      exact ⟨own.1, own.2.1 ▸ denotes⟩
    · intro stored
      have own := denotes_unique collation context segment branch.bankId bankId stored.2 denotes
      exact ⟨rows, returned,
        (listed.exact branch).mpr ⟨stored.1, own, fun part asked => by cases asked⟩⟩
  · have unknown : ∀ bankId, ¬ Denotes collation context segment bankId :=
      fun bankId denotes => named ⟨bankId, denotes⟩
    have missing := collection_notFound collation context segment none rfl unknown
    constructor
    · intro shown
      rcases shown with ⟨rows, returned, _⟩
      rw [missing] at returned
      cases returned
    · intro stored
      exact absurd stored.2 (unknown branch.bankId)

/-- The item route answers with a branch exactly where the collection route lists it,
and with 404 in every other case. -/
structure ItemAgrees (segment : String) (bankBranchId : Int32) : Prop where
  found : ∀ branch, bankBranchRoute context segment bankBranchId = .ok branch ↔
    (∃ rows, filterBankBranchesForBankIdAsync collation context segment none = .ok rows ∧
      branch ∈ rows) ∧ branch.bankBranchId = bankBranchId
  missing : (¬ ∃ rows, filterBankBranchesForBankIdAsync collation context segment none = .ok rows ∧
      ∃ branch ∈ rows, branch.bankBranchId = bankBranchId) →
    bankBranchRoute context segment bankBranchId = .notFound

def NotForeign (segment : String) (bankBranchId : Int32) : Prop :=
  ∀ branch ∈ context.bankBranches, branch.bankBranchId = bankBranchId →
    Denotes collation context segment branch.bankId

/-- The two contexts differ in branches of banks which the segment does not name. -/
structure OtherBanksChanged (segment : String) (changed : KeyedDbContext) : Prop where
  banks : changed.banks = context.banks
  branches : ∀ branch, Denotes collation context segment branch.bankId →
    (branch ∈ changed.bankBranches ↔ branch ∈ context.bankBranches)

theorem denotes_congr (segment : String) (changed : KeyedDbContext)
    (other : OtherBanksChanged collation context segment changed) (bankId : Int32) :
    Denotes collation changed segment bankId ↔ Denotes collation context segment bankId := by
  simp only [Denotes, findBank, other.banks]

theorem itemAgrees_iff (segment : String) (bankBranchId : Int32) :
    ItemAgrees collation context segment bankBranchId ↔
      NotForeign collation context segment bankBranchId := by
  constructor
  · intro agrees branch member same
    have answered := (bankBranchRoute_ok_iff context segment bankBranchId branch).mpr ⟨member, same⟩
    have listed := ((agrees.found branch).mp answered).1
    exact ((collection_member_iff collation context segment branch).mp listed).2
  · intro own
    constructor
    · intro branch
      rw [bankBranchRoute_ok_iff, collection_member_iff]
      constructor
      · intro stored
        exact ⟨⟨stored.1, own branch stored.1 stored.2⟩, stored.2⟩
      · intro listed
        exact ⟨listed.1.1, listed.2⟩
    · intro unlisted
      rw [bankBranchRoute_notFound_iff]
      intro branch member same
      have listed := (collection_member_iff collation context segment branch).mpr
        ⟨member, own branch member same⟩
      rcases listed with ⟨rows, returned, inside⟩
      exact unlisted ⟨rows, returned, branch, inside, same⟩

theorem item_unchanged_iff (segment : String) (bankBranchId : Int32) (changed : KeyedDbContext)
    (other : OtherBanksChanged collation context segment changed)
    (own : NotForeign collation context segment bankBranchId) :
    bankBranchRoute changed segment bankBranchId = bankBranchRoute context segment bankBranchId ↔
      NotForeign collation changed segment bankBranchId := by
  constructor
  · intro same branch member atNumber
    have answered := (bankBranchRoute_ok_iff changed segment bankBranchId branch).mpr
      ⟨member, atNumber⟩
    rw [same, bankBranchRoute_ok_iff] at answered
    rw [denotes_congr collation context segment changed other]
    exact own branch answered.1 atNumber
  · intro ownChanged
    cases answer : bankBranchRoute context segment bankBranchId with
    | ok branch =>
        rw [bankBranchRoute_ok_iff] at answer ⊢
        exact ⟨(other.branches branch (own branch answer.1 answer.2)).mpr answer.1, answer.2⟩
    | notFound =>
        rw [bankBranchRoute_notFound_iff] at answer ⊢
        intro branch member same
        have denotes := ownChanged branch member same
        rw [denotes_congr collation context segment changed other] at denotes
        exact answer branch ((other.branches branch denotes).mp member) same

theorem item_route_agrees_iff (segment : String) (bankBranchId : Int32) :
    (ItemAgrees collation context segment bankBranchId ↔
      NotForeign collation context segment bankBranchId) ∧
    ∀ changed, OtherBanksChanged collation context segment changed →
      NotForeign collation context segment bankBranchId →
      (bankBranchRoute changed segment bankBranchId = bankBranchRoute context segment bankBranchId ↔
        NotForeign collation changed segment bankBranchId) :=
  ⟨itemAgrees_iff collation context segment bankBranchId,
    item_unchanged_iff collation context segment bankBranchId⟩

def ownBranchesMock : KeyedDbContext :=
  { bankMock with
    bankBranches := [citrusdal, uitenhage]
    bankBranches_keyed := by decide }

theorem notForeign_mock (context : KeyedDbContext) (branches : List BankBranches)
    (stored : context.bankBranches = citrusdal :: branches)
    (others : ∀ branch ∈ branches, branch.bankBranchId ≠ 3012) :
    NotForeign asciiCollation.toCollation context "10" 3012 := by
  intro branch member same
  rw [stored] at member
  rcases List.mem_cons.mp member with rfl | other
  · exact Or.inl (by decide)
  · exact absurd same (others branch other)

theorem item_route_agrees_iff_mock :
    ItemAgrees asciiCollation.toCollation bankMock "10" 3012 ∧
    bankBranchRoute ownBranchesMock "10" 3012 = bankBranchRoute bankMock "10" 3012 := by
  have agrees := item_route_agrees_iff asciiCollation.toCollation bankMock "10" 3012
  have own := notForeign_mock bankMock [uitenhage, portElizabeth] rfl (by decide)
  refine ⟨agrees.1.mpr own, (agrees.2 ownBranchesMock ?_ own).mpr
    (notForeign_mock ownBranchesMock [uitenhage] rfl (by decide))⟩
  refine ⟨rfl, ?_⟩
  intro branch denotes
  have owner : branch.bankId = 10 := denotes_unique asciiCollation.toCollation bankMock "10" _ _
    denotes (Or.inl (by decide))
  have notOther : branch ≠ portElizabeth := by
    intro same
    rw [same] at owner
    exact absurd owner (by decide)
  simp [ownBranchesMock, bankMock, notOther]

theorem item_route_crosses_banks :
    bankBranchRoute bankMock "10" 3348 = .ok portElizabeth ∧
    filterBankBranchesForBankIdAsync asciiCollation.toCollation bankMock "10" none =
      .ok [citrusdal, uitenhage] ∧
    ¬ ItemAgrees asciiCollation.toCollation bankMock "10" 3348 := by
  refine ⟨by decide, by decide, ?_⟩
  intro agrees
  rcases (agrees.found portElizabeth).mp (by decide) with ⟨⟨rows, returned, member⟩, _⟩
  have answered : filterBankBranchesForBankIdAsync asciiCollation.toCollation bankMock "10" none =
      .ok [citrusdal, uitenhage] := by decide
  rw [answered] at returned
  cases returned
  exact absurd member (by decide)

end ReferenceData
