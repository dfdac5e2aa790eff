import ReferenceData.BranchItem

namespace ReferenceData

open ResultSet

section Numbers

variable (collation : Collation) (context : KeyedDbContext)

def branchesOfListed (filter : Option String) : Set BankBranches :=
  {branch | ∃ bank ∈ getBanks collation context,
    branch ∈ branchesOf collation context bank.bankId filter}

theorem mem_getBanks_iff (bank : Bank) : bank ∈ getBanks collation context ↔ bank ∈ context.banks :=
  (StableSort.orderBy_perm _ _).mem_iff

theorem getBanks_apart (filter : Option String) : (getBanks collation context).Pairwise
    (fun first second => ∀ branch ∈ branchesOf collation context first.bankId filter,
      branch ∉ branchesOf collation context second.bankId filter) := by
  have keyed : ((getBanks collation context).map Bank.bankId).Nodup :=
    ((StableSort.orderBy_perm _ _).map Bank.bankId).nodup_iff.mpr context.banks_keyed
  apply (List.pairwise_map.mp keyed).imp
  intro first second different branch left right
  exact different (left.2.1.symm.trans right.2.1)

theorem pages_by_number (filter : Option String) (banks : List Bank) :
    ∃ pages : List (List BankBranches), banks.map (fun bank =>
        filterBankBranchesForBankIdAsync collation context (decimalText bank.bankId) filter) =
        pages.map ActionResult.ok ∧
      List.Forall₂ (fun (bank : Bank) page =>
        Enumerates page (branchesOf collation context bank.bankId filter)) banks pages := by
  induction banks with
  | nil => exact ⟨[], rfl, .nil⟩
  | cons bank banks ih =>
      obtain ⟨pages, answered, listed⟩ := ih
      obtain ⟨page, first, own⟩ := byNumber_lists collation context bank filter
      refine ⟨page :: pages, ?_, .cons own listed⟩
      rw [List.map_cons, List.map_cons, first, answered]

/-- Asking for the branches of one listed bank after another, each by its number, brings every
branch of a listed bank once; it brings all there are unless a branch has no bank. -/
theorem branches_by_number (filter : Option String) :
    ∃ pages : List (List BankBranches), (getBanks collation context).map (fun bank =>
        filterBankBranchesForBankIdAsync collation context (decimalText bank.bankId) filter) =
        pages.map ActionResult.ok ∧
      Enumerates pages.flatten (branchesOfListed collation context filter) ∧
      (Enumerates pages.flatten (branchesMentioning collation context filter) ↔
        ∀ branch ∈ context.bankBranches, Mentions collation filter branch →
          ∃ bank ∈ context.banks, bank.bankId = branch.bankId) := by
  obtain ⟨pages, answered, listed⟩ :=
    pages_by_number collation context filter (getBanks collation context)
  have whole := enumerates_flatten (getBanks collation context)
    (fun bank => branchesOf collation context bank.bankId filter) pages listed
    (getBanks_apart collation context filter)
  refine ⟨pages, answered, whole, ?_⟩
  constructor
  · intro all branch member mentions
    have inside : branch ∈ branchesOfListed collation context filter := by
      have same := enumerates_unique pages.flatten _ _ whole all
      change branch ∈ {row | ∃ bank ∈ getBanks collation context,
        row ∈ branchesOf collation context bank.bankId filter}
      rw [same]
      exact ⟨member, mentions⟩
    obtain ⟨bank, stored, own⟩ := inside
    exact ⟨bank, (mem_getBanks_iff collation context bank).mp stored, own.2.1.symm⟩
  · intro banked
    have same : branchesOfListed collation context filter =
        branchesMentioning collation context filter := by
      ext branch
      constructor
      · intro inside
        obtain ⟨_, _, own⟩ := inside
        exact ⟨own.1, own.2.2⟩
      · intro inside
        obtain ⟨bank, stored, same⟩ := banked branch inside.1 inside.2
        exact ⟨bank, (mem_getBanks_iff collation context bank).mpr stored, inside.1, same.symm,
          inside.2⟩
    rw [← same]
    exact whole

end Numbers

section Segments

def NumberText (text : String) (value : Int32) : Prop :=
  DecimalText.Integer text.toList value.toInt

theorem intTryParse_iff (text : String) (value : Int32) :
    intTryParse text = some value ↔ NumberText text value := by
  rw [NumberText, ← DecimalText.parseInteger_iff, intTryParse]
  cases parsed : DecimalText.parseInteger text with
  | none => simp
  | some integer =>
      have lower := value.le_toInt
      have upper := value.toInt_lt
      simp only [Option.some.injEq]
      by_cases bounds : -2147483648 ≤ integer ∧ integer ≤ 2147483647
      · rw [if_pos bounds, Option.some.injEq]
        have held : (Int32.ofInt integer).toInt = integer :=
          Int32.toInt_ofInt_of_le (by omega) (by omega)
        rw [← Int32.toInt_inj, held]
      · rw [if_neg bounds]
        constructor
        · intro none
          cases none
        · intro same
          omega

theorem intTryParse_none_iff (text : String) :
    intTryParse text = none ↔ ∀ value, ¬ NumberText text value := by
  rw [Option.eq_none_iff_forall_not_mem]
  simp only [Option.mem_def, intTryParse_iff]

variable (collation : Collation) (context : KeyedDbContext)

/-- The first bank, as they are stored, whose name compares equal. -/
def FirstNamed (name : String) (bank : Bank) : Prop :=
  collation.eq bank.bankName name = true ∧
    ∃ before after, context.banks = before ++ bank :: after ∧
      ∀ other ∈ before, collation.eq other.bankName name = false

theorem findBank_iff (name : String) (bank : Bank) :
    findBank collation context name = some bank ↔ FirstNamed collation context name bank := by
  rw [findBank, List.find?_eq_some_iff_append, FirstNamed]
  simp

theorem collection_shows_iff (segment : String) (branch : BankBranches) :
    (∃ rows, filterBankBranchesForBankIdAsync collation context segment none = .ok rows ∧
        branch ∈ rows) ↔
      branch ∈ context.bankBranches ∧
        (NumberText segment branch.bankId ∨ ((∀ value, ¬ NumberText segment value) ∧
          ∃ bank, FirstNamed collation context segment bank ∧ bank.bankId = branch.bankId)) := by
  rw [collection_member_iff, Denotes, intTryParse_iff, intTryParse_none_iff]
  simp only [findBank_iff]

end Segments

section Names

variable (collation : Collation) (context : KeyedDbContext) (bank : Bank)

end Names

end ReferenceData
