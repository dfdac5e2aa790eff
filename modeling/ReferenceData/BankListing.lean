import ReferenceData.Controllers

namespace ReferenceData

open ResultSet

section Answers

variable (collation : Collation) (context : ReferenceDataDbContext)

/-- An absent or empty filter asks for nothing. -/
def Mentions (filter : Option String) (branch : BankBranches) : Prop :=
  ∀ part, filter = some part → part ≠ "" → collation.contains branch.branchName part = true

def branchesMentioning (filter : Option String) : Set BankBranches :=
  {branch | branch ∈ context.bankBranches ∧ Mentions collation filter branch}

def branchesOf (bankId : Int32) (filter : Option String) : Set BankBranches :=
  {branch | branch ∈ context.bankBranches ∧ branch.bankId = bankId ∧
    Mentions collation filter branch}

def Lists (result : ActionResult (List BankBranches)) (answer : Set BankBranches) : Prop :=
  ∃ rows, result = .ok rows ∧ Enumerates rows answer

/-- The bank which a path segment names: by its number, else by the first name that compares
equal. -/
def Denotes (segment : String) (bankId : Int32) : Prop :=
  intTryParse segment = some bankId ∨
    (intTryParse segment = none ∧
      ∃ bank, findBank collation context segment = some bank ∧ bank.bankId = bankId)

end Answers

theorem mentions_absent (collation : Collation) (filter : Option String)
    (empty : isNullOrEmpty filter = true) (branch : BankBranches) :
    Mentions collation filter branch := by
  intro part asked nonempty
  rw [asked] at empty
  exact absurd (eq_of_beq empty) nonempty

theorem mentions_present (collation : Collation) (filter : Option String)
    (present : isNullOrEmpty filter = false) (branch : BankBranches) :
    Mentions collation filter branch ↔
      collation.containsParameter branch.branchName filter = true := by
  cases filter with
  | none => cases present
  | some part =>
      have nonempty : part ≠ "" := by
        intro empty
        rw [empty] at present
        cases present
      constructor
      · intro mentions
        exact mentions part rfl nonempty
      · intro contained other same _
        cases same
        exact contained

theorem lists_unique (result : ActionResult (List BankBranches)) (first second : Set BankBranches)
    (left : Lists result first) (right : Lists result second) : first = second := by
  rcases left with ⟨rows, returned, leftRows⟩
  rcases right with ⟨others, returnedToo, rightRows⟩
  rw [returned] at returnedToo
  cases returnedToo
  exact enumerates_unique rows first second leftRows rightRows

theorem lists_okOrNotFound (found : Option (List BankBranches)) (rows : List BankBranches)
    (answer : Set BankBranches) (returned : found = some rows) (exact : Enumerates rows answer) :
    Lists (okOrNotFound found) answer :=
  ⟨rows, by rw [returned]; rfl, exact⟩

section Overloads

variable (collation : Collation) (context : KeyedDbContext)

theorem denotes_unique (segment : String) (first second : Int32)
    (left : Denotes collation context segment first)
    (right : Denotes collation context segment second) : first = second := by
  rcases left with parsed | ⟨unparsed, bank, found, rfl⟩
  · rcases right with parsedToo | ⟨unparsed, _⟩
    · rw [parsed] at parsedToo
      exact Option.some.inj parsedToo
    · rw [parsed] at unparsed
      cases unparsed
  · rcases right with parsed | ⟨_, other, foundToo, rfl⟩
    · rw [unparsed] at parsed
      cases parsed
    · rw [found] at foundToo
      cases foundToo
      rfl

theorem distinct_branches (keep : BankBranches → Bool) :
    distinct (sameBranch collation) (context.bankBranches.filter keep) =
      context.bankBranches.filter keep := by
  apply (context.bankBranches_keyed.filter keep).distinct_eq (sameBranch collation)
  intro a b same
  simp only [sameBranch, Bool.and_eq_true, beq_iff_eq] at same
  exact same.1.1.1

theorem enumerates_branches (keep : BankBranches → Bool) (answer : Set BankBranches)
    (meaning : ∀ branch ∈ context.bankBranches, keep branch = true ↔ branch ∈ answer)
    (stored : ∀ branch ∈ answer, branch ∈ context.bankBranches) :
    Enumerates (context.bankBranches.filter keep) answer := by
  refine ⟨context.bankBranches_keyed.nodup.filter keep, ?_⟩
  intro branch
  rw [List.mem_filter]
  constructor
  · intro selected
    exact (meaning branch selected.1).mp selected.2
  · intro inside
    exact ⟨stored branch inside, (meaning branch (stored branch inside)).mpr inside⟩

theorem bankId_rows (bankId : Int32) (filter : Option String) (empty : isNullOrEmpty filter = true) :
    Enumerates (context.bankBranches.filter (fun b => b.bankId == bankId))
      (branchesOf collation context bankId filter) := by
  apply enumerates_branches context
  · intro branch member
    simp [branchesOf, mentions_absent collation filter empty, member]
  · intro branch inside
    exact inside.1

theorem byBankId_lists (bankId : Int32) (filter : Option String)
    (empty : isNullOrEmpty filter = true) :
    Lists (okOrNotFound (getBankBranchesByBankId collation context bankId))
      (branchesOf collation context bankId filter) := by
  apply lists_okOrNotFound _ _ _ rfl
  rw [distinct_branches]
  exact bankId_rows collation context bankId filter empty

theorem byBankName_lists (name : String) (bank : Bank) (filter : Option String)
    (found : findBank collation context name = some bank) (empty : isNullOrEmpty filter = true) :
    Lists (okOrNotFound (getBankBranchesByBankName collation context name))
      (branchesOf collation context bank.bankId filter) := by
  apply lists_okOrNotFound _ (context.bankBranches.filter (fun b => b.bankId == bank.bankId))
  · simp only [getBankBranchesByBankName, found, distinct_branches]
  · exact bankId_rows collation context bank.bankId filter empty

theorem byBankIdAndFilter_lists (bankId : Int32) (filter : Option String)
    (present : isNullOrEmpty filter = false) :
    Lists (okOrNotFound (getBankBranchesByBankIdAndFilter collation context bankId filter))
      (branchesOf collation context bankId filter) := by
  apply lists_okOrNotFound _ (context.bankBranches.filter (fun b =>
    b.bankId == bankId && collation.containsParameter b.branchName filter))
  · simp [getBankBranchesByBankIdAndFilter, present, distinct_branches]
  · apply enumerates_branches context
    · intro branch member
      simp [branchesOf, mentions_present collation filter present, member]
    · intro branch inside
      exact inside.1

theorem byBankNameAndFilter_lists (name : String) (bank : Bank) (filter : Option String)
    (found : findBank collation context name = some bank) (present : isNullOrEmpty filter = false) :
    Lists (okOrNotFound (getBankBranchesByBankNameAndFilter collation context name filter))
      (branchesMentioning collation context filter) := by
  apply lists_okOrNotFound _ (context.bankBranches.filter (fun b =>
    collation.containsParameter b.branchName filter))
  · simp only [getBankBranchesByBankNameAndFilter, found]
  · apply enumerates_branches context
    · intro branch member
      simp [branchesMentioning, mentions_present collation filter present, member]
    · intro branch inside
      exact inside.1

theorem allBranches_lists (filter : Option String) (empty : isNullOrEmpty filter = true) :
    Lists (okOrNotFound (getBankBranches collation context))
      (branchesMentioning collation context filter) := by
  apply lists_okOrNotFound _ context.bankBranches
  · have whole := distinct_branches collation context (fun _ => true)
    simp only [List.filter_true] at whole
    simp only [getBankBranches, whole]
  · refine ⟨context.bankBranches_keyed.nodup, ?_⟩
    intro branch
    simp [branchesMentioning, mentions_absent collation filter empty]

theorem branchesMentioning_eq_iff (bankId : Int32) (filter : Option String) :
    branchesMentioning collation context filter = branchesOf collation context bankId filter ↔
      ∀ branch ∈ context.bankBranches, Mentions collation filter branch →
        branch.bankId = bankId := by
  constructor
  · intro same branch member mentions
    have inside : branch ∈ branchesMentioning collation context filter := ⟨member, mentions⟩
    rw [same] at inside
    exact inside.2.1
  · intro own
    ext branch
    constructor
    · intro inside
      exact ⟨inside.1, own branch inside.1 inside.2, inside.2⟩
    · intro inside
      exact ⟨inside.1, inside.2.2⟩

theorem collection_lists (segment : String) (bankId : Int32) (filter : Option String)
    (empty : isNullOrEmpty filter = true) (denotes : Denotes collation context segment bankId) :
    Lists (filterBankBranchesForBankIdAsync collation context segment filter)
      (branchesOf collation context bankId filter) := by
  rcases denotes with parsed | ⟨unparsed, bank, found, rfl⟩
  · simp only [filterBankBranchesForBankIdAsync, parsed, empty, if_true]
    exact byBankId_lists collation context bankId filter empty
  · simp only [filterBankBranchesForBankIdAsync, unparsed, empty, if_true]
    exact byBankName_lists collation context segment bank filter found empty

theorem collection_notFound (segment : String) (filter : Option String)
    (empty : isNullOrEmpty filter = true)
    (unknown : ∀ bankId, ¬ Denotes collation context segment bankId) :
    filterBankBranchesForBankIdAsync collation context segment filter = .notFound := by
  cases parsed : intTryParse segment with
  | some bankId => exact absurd (Or.inl parsed) (unknown bankId)
  | none =>
      cases found : findBank collation context segment with
      | some bank => exact absurd (Or.inr ⟨parsed, bank, found, rfl⟩) (unknown bank.bankId)
      | none =>
          simp only [filterBankBranchesForBankIdAsync, parsed, empty, if_true,
            getBankBranchesByBankName, found, okOrNotFound]

theorem listRoute_number_lists (bankId : Int32) (filter : Option String)
    (empty : isNullOrEmpty filter = true) :
    Lists (getBankBranchesListAsync collation context (some (decimalText bankId)))
      (branchesOf collation context bankId filter) := by
  have nonempty : isNullOrEmpty (some (decimalText bankId)) = false := by
    simp [isNullOrEmpty, decimalText_ne_empty]
  simp only [getBankBranchesListAsync, nonempty, Bool.false_eq_true, if_false,
    intTryParse_decimalText]
  exact byBankId_lists collation context bankId filter empty

theorem listRoute_name_lists (name : String) (bank : Bank) (filter : Option String)
    (unparsed : intTryParse name = none) (found : findBank collation context name = some bank)
    (empty : isNullOrEmpty filter = true) :
    Lists (getBankBranchesListAsync collation context (some name))
      (if name = "" then branchesMentioning collation context filter
        else branchesOf collation context bank.bankId filter) := by
  by_cases unnamed : name = ""
  · have noName : isNullOrEmpty (some name) = true := by simp [isNullOrEmpty, unnamed]
    simp only [getBankBranchesListAsync, noName, if_true, if_pos unnamed]
    exact allBranches_lists collation context filter empty
  · have nonempty : isNullOrEmpty (some name) = false := by simp [isNullOrEmpty, unnamed]
    simp only [getBankBranchesListAsync, nonempty, Bool.false_eq_true, if_false, unparsed,
      if_neg unnamed]
    exact byBankName_lists collation context name bank filter found empty

end Overloads

section Independence

variable (collation : Collation) (context : KeyedDbContext)

/-- Naming the bank by `name` and by its number lists the same branches on either route:
those of `bank` which mention the filter, and none of another bank. -/
structure ListingIndependentOfName (bank : Bank) (name : String) (filter : Option String) :
    Prop where
  byName : Lists (filterBankBranchesForBankIdAsync collation context name filter)
    (branchesOf collation context bank.bankId filter)
  byNumber : Lists
    (filterBankBranchesForBankIdAsync collation context (decimalText bank.bankId) filter)
    (branchesOf collation context bank.bankId filter)
  listByName : isNullOrEmpty filter = true →
    Lists (getBankBranchesListAsync collation context (some name))
      (branchesOf collation context bank.bankId filter)
  listByNumber : isNullOrEmpty filter = true →
    Lists (getBankBranchesListAsync collation context (some (decimalText bank.bankId)))
      (branchesOf collation context bank.bankId filter)

/-- Where the query is not restricted to the bank, all it selects must belong to the bank:
with a filter always, without one only for the empty name. -/
def SelectsOwnBranches (bank : Bank) (name : String) (filter : Option String) : Prop :=
  isNullOrEmpty filter = false ∨ name = "" →
    ∀ branch ∈ context.bankBranches, Mentions collation filter branch →
      branch.bankId = bank.bankId

theorem byNumber_lists (bank : Bank) (filter : Option String) :
    Lists (filterBankBranchesForBankIdAsync collation context (decimalText bank.bankId) filter)
      (branchesOf collation context bank.bankId filter) := by
  cases empty : isNullOrEmpty filter with
  | true =>
      exact collection_lists collation context _ bank.bankId filter empty
        (Or.inl (intTryParse_decimalText bank.bankId))
  | false =>
      simp only [filterBankBranchesForBankIdAsync, intTryParse_decimalText, empty,
        Bool.false_eq_true, if_false]
      exact byBankIdAndFilter_lists collation context bank.bankId filter empty

section Cases

variable (bank : Bank) (name : String) (filter : Option String)

theorem independent_filtered_iff (unparsed : intTryParse name = none)
    (found : findBank collation context name = some bank) (present : isNullOrEmpty filter = false) :
    ListingIndependentOfName collation context bank name filter ↔
      branchesMentioning collation context filter = branchesOf collation context bank.bankId filter := by
  have byName : Lists (filterBankBranchesForBankIdAsync collation context name filter)
      (branchesMentioning collation context filter) := by
    simp only [filterBankBranchesForBankIdAsync, unparsed, present, Bool.false_eq_true, if_false]
    exact byBankNameAndFilter_lists collation context name bank filter found present
  have filtered : isNullOrEmpty filter ≠ true := by simp [present]
  constructor
  · intro independent
    exact lists_unique _ _ _ byName independent.byName
  · intro same
    rw [same] at byName
    exact ⟨byName, byNumber_lists collation context bank filter,
      fun empty => absurd empty filtered, fun empty => absurd empty filtered⟩

theorem independent_unfiltered_iff (unparsed : intTryParse name = none)
    (found : findBank collation context name = some bank) (empty : isNullOrEmpty filter = true) :
    ListingIndependentOfName collation context bank name filter ↔
      (name = "" → branchesMentioning collation context filter =
        branchesOf collation context bank.bankId filter) := by
  have byName := collection_lists collation context name bank.bankId filter empty
    (Or.inr ⟨unparsed, bank, found, rfl⟩)
  have byNumber := byNumber_lists collation context bank filter
  have listByNumber := listRoute_number_lists collation context bank.bankId filter empty
  have listByName := listRoute_name_lists collation context name bank filter unparsed found empty
  by_cases unnamed : name = ""
  · rw [if_pos unnamed] at listByName
    constructor
    · intro independent _
      exact lists_unique _ _ _ listByName (independent.listByName empty)
    · intro same
      rw [same unnamed] at listByName
      exact ⟨byName, byNumber, fun _ => listByName, fun _ => listByNumber⟩
  · rw [if_neg unnamed] at listByName
    constructor
    · intro _ nameless
      exact absurd nameless unnamed
    · intro _
      exact ⟨byName, byNumber, fun _ => listByName, fun _ => listByNumber⟩

end Cases

theorem listing_independent_of_name_iff (bank : Bank) (name : String) (filter : Option String)
    (unparsed : intTryParse name = none) (found : findBank collation context name = some bank) :
    ListingIndependentOfName collation context bank name filter ↔
      SelectsOwnBranches collation context bank name filter := by
  have own := branchesMentioning_eq_iff collation context bank.bankId filter
  cases empty : isNullOrEmpty filter with
  | true =>
      rw [independent_unfiltered_iff collation context bank name filter unparsed found empty, own]
      simp [SelectsOwnBranches, empty]
  | false =>
      rw [independent_filtered_iff collation context bank name filter unparsed found empty, own]
      simp [SelectsOwnBranches, empty]

end Independence

section Mock

def absaBank : Bank := ⟨10, "ABSA Bank", 3, some "632005"⟩
def africanBank : Bank := ⟨19, "African Bank", 0, some "430000"⟩

def citrusdal : BankBranches := ⟨3012, 10, "CITRUSDAL,K.P.", some "334411"⟩
def uitenhage : BankBranches := ⟨3017, 10, "UITENHAGE 3", some "334416"⟩
def portElizabeth : BankBranches := ⟨3348, 19, "PORT ELIZABETH, K.P.", some "491017"⟩

/-- Rows of the mocked context of the service tests. -/
def bankMock : KeyedDbContext where
  toReferenceDataDbContext :=
    { ReferenceDataDbContext.empty with
      banks := [absaBank, africanBank]
      bankBranches := [citrusdal, uitenhage, portElizabeth] }
  banks_keyed := by decide
  bankBranches_keyed := by decide

theorem listing_independent_of_name_iff_mock : ListingIndependentOfName asciiCollation.toCollation
    bankMock absaBank "ABSA Bank" (some "UITENHAGE") := by
  apply (listing_independent_of_name_iff asciiCollation.toCollation bankMock absaBank "ABSA Bank"
    (some "UITENHAGE") (by decide) (by decide)).mpr
  intro _ branch member mentions
  have contained := mentions "UITENHAGE" rfl (by decide)
  simp only [bankMock, List.mem_cons, List.not_mem_nil, or_false] at member
  rcases member with rfl | rfl | rfl
  · exact absurd contained (by decide)
  · rfl
  · exact absurd contained (by decide)

theorem listing_depends_on_name :
    intTryParse "ABSA Bank" = none ∧
    findBank asciiCollation.toCollation bankMock "ABSA Bank" = some absaBank ∧
    ¬ ListingIndependentOfName asciiCollation.toCollation bankMock absaBank "ABSA Bank"
      (some "K.P.") := by
  refine ⟨by decide, by decide, ?_⟩
  intro independent
  rcases independent.byName with ⟨rows, returned, listed⟩
  have answered : filterBankBranchesForBankIdAsync asciiCollation.toCollation bankMock "ABSA Bank"
      (some "K.P.") = .ok [citrusdal, portElizabeth] := by decide
  rw [answered] at returned
  cases returned
  have own := ((listed.exact portElizabeth).mp (by decide)).2.1
  exact absurd own (by decide)

end Mock

end ReferenceData
