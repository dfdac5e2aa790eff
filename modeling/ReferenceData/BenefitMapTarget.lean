import ReferenceData.BenefitMapScript

namespace ReferenceData

open Sql

/-- The benefit code column has one of its two names, and no other column is promised but
the one the updates select by. -/
structure PartiallyMigrated (columns : List String) : Prop where
  keyed : quoteOrPolicy_BenefitCode ∈ columns
  either : quotesIntegrationApi_BenefiCode ∈ columns ↔ quotesIntegrationApi_BenefitCode ∉ columns

def targetColumns : List String :=
  [quotesIntegration_ClaimExtender, quotesIntegrationApi_WaitingPeriod,
    quotesIntegrationApi_BenefitCode]

def Migrated (columns : List String) : Prop := ∀ column ∈ targetColumns, column ∈ columns

def targetName : String → String :=
  renamed quotesIntegrationApi_BenefiCode quotesIntegrationApi_BenefitCode

abbrev SchemaReached (before stored : SqlTable) : Prop :=
  Evolved targetName before targetColumns [quotesIntegrationApi_BenefiCode] stored

def HasCode (collation : Collation) (columns : List String) (row : Row SqlValue)
    (entry : BenefitCode) : Prop :=
  ∃ code, cellAt columns row quoteOrPolicy_BenefitCode = some (some (.nvarchar code)) ∧
    collation.eq code entry.code = true

/-- What becomes of one row: a listed code brings its two values, and nothing else changes. -/
structure RowReachesTarget (collation : Collation) (source target : List String)
    (row reached : Row SqlValue) : Prop where
  waitingPeriod : ∀ entry ∈ benefitCodes, HasCode collation source row entry →
    cellAt target reached quotesIntegrationApi_WaitingPeriod =
      some (some (.nvarchar entry.waitingPeriod))
  claimExtender : ∀ entry ∈ benefitCodes, HasCode collation source row entry →
    cellAt target reached quotesIntegration_ClaimExtender =
      some (some (.nvarchar entry.claimExtender))
  kept : ∀ column ∈ source,
    (column = quotesIntegrationApi_WaitingPeriod ∨ column = quotesIntegration_ClaimExtender →
      ∀ entry ∈ benefitCodes, ¬ HasCode collation source row entry) →
    cellAt target reached (targetName column) = cellAt source row column

structure ReachesTarget (collation : Collation) (before after : SqlTable) : Prop where
  columns : Migrated after.columns
  rows : List.Forall₂ (RowReachesTarget collation before.columns after.columns)
    before.rows after.rows

/-- The file ends without error in the target of its migration, and stays there when it
is run again. -/
def MeetsTarget (collation : Collation) (file : List SqlBatch) (tables : SqlDatabase)
    (before : SqlTable) : Prop :=
  ∃ after tablesAfter, runFile (sqlEquals collation) file tables = (tablesAfter, []) ∧
    tablesAfter benefitMap = some after ∧ ReachesTarget collation before after ∧
    runFile (sqlEquals collation) file tablesAfter = (tablesAfter, [])

def CodesApart (collation : Collation) : Prop :=
  benefitCodes.Pairwise (fun first second => collation.eq first.code second.code = false)

section Updates

theorem selects_code_iff (collation : Collation) (columns : List String) (row : Row SqlValue)
    (entry : BenefitCode) : UpdatePlan.selects (sqlEquals collation) columns
      quoteOrPolicy_BenefitCode row entry.update = true ↔ HasCode collation columns row entry := by
  constructor
  · intro selected
    simp only [UpdatePlan.selects, matchesCell] at selected
    split at selected
    · rename_i value found
      cases value with
      | nvarchar code => exact ⟨code, found, selected⟩
      | int value => cases selected
      | bit value => cases selected
      | uniqueidentifier value => cases selected
    · cases selected
  · intro coded
    rcases coded with ⟨code, found, same⟩
    simp only [UpdatePlan.selects, matchesCell, found]
    exact same

theorem benefitUpdates_bound (columns : List String) (keyed : quoteOrPolicy_BenefitCode ∈ columns)
    (migrated : Migrated columns) : benefitUpdates.Bound columns := by
  refine ⟨keyed, ?_⟩
  intro update member column assigned
  rcases List.mem_map.mp member with ⟨entry, _, rfl⟩
  simp only [KeyedUpdate.assigned, BenefitCode.update, List.map_cons, List.map_nil,
    List.mem_cons, List.not_mem_nil, or_false] at assigned
  rcases assigned with rfl | rfl
  · exact migrated _ (by simp [targetColumns])
  · exact migrated _ (by simp [targetColumns])

variable (collation : EquivalenceCollation)

theorem benefitUpdates_apart (apart : CodesApart collation.toCollation) :
    UpdatePlan.Apart (sqlEquals collation.toCollation) benefitUpdates.updates := by
  intro value
  apply List.pairwise_map.mpr
  apply List.Pairwise.imp _ apart
  intro first second differ both
  rcases both with ⟨atFirst, atSecond⟩
  cases value with
  | nvarchar text =>
      have same := collation.eq_trans first.code text second.code
        (collation.eq_symm text first.code atFirst) atSecond
      rw [differ] at same
      cases same
  | int value => cases atFirst
  | bit value => cases atFirst
  | uniqueidentifier value => cases atFirst

theorem targetName_updated (column : String)
    (updated : targetName column = quotesIntegrationApi_WaitingPeriod ∨
      targetName column = quotesIntegration_ClaimExtender) :
    column = quotesIntegrationApi_WaitingPeriod ∨ column = quotesIntegration_ClaimExtender := by
  by_cases atOld : column = quotesIntegrationApi_BenefiCode
  · simp [targetName, renamed, atOld, quotesIntegrationApi_BenefitCode,
      quotesIntegrationApi_WaitingPeriod, quotesIntegration_ClaimExtender] at updated
  · rwa [targetName, renamed, if_neg atOld] at updated

theorem runOn_reaches (apart : CodesApart collation.toCollation) (source target : List String)
    (keyed : quoteOrPolicy_BenefitCode ∈ source) (migrated : Migrated target)
    (present : ∀ column ∈ source, targetName column ∈ target) (row moved : Row SqlValue)
    (carried : CarriesRow targetName source target row moved) :
    RowReachesTarget collation.toCollation source target row
      (UpdatePlan.runOn (sqlEquals collation.toCollation) target quoteOrPolicy_BenefitCode
        benefitUpdates.updates moved) := by
  have keyTarget : quoteOrPolicy_BenefitCode ∈ target := present _ keyed
  have bound := benefitUpdates_bound target keyTarget migrated
  have updatesApart := benefitUpdates_apart collation apart
  have sameKey : cellAt target moved quoteOrPolicy_BenefitCode =
      cellAt source row quoteOrPolicy_BenefitCode := carried.cells _ keyed
  have selects_iff : ∀ entry : BenefitCode, HasCode collation.toCollation source row entry ↔
      UpdatePlan.selects (sqlEquals collation.toCollation) target quoteOrPolicy_BenefitCode moved
        entry.update = true := by
    intro entry
    rw [selects_code_iff, HasCode, HasCode, sameKey]
  have written := fun (entry : BenefitCode) (member : entry ∈ benefitCodes)
      (coded : HasCode collation.toCollation source row entry) =>
    UpdatePlan.runOn_written (sqlEquals collation.toCollation) target quoteOrPolicy_BenefitCode
      benefitUpdates.updates moved carried.width keyTarget benefitUpdates.keeps_key updatesApart
      entry.update (List.mem_map_of_mem member)
      (benefitUpdates.assigns_once _ (List.mem_map_of_mem member))
      (bound.2 _ (List.mem_map_of_mem member)) ((selects_iff entry).mp coded)
  constructor
  · intro entry member coded
    exact written entry member coded (quotesIntegrationApi_WaitingPeriod, _) (by simp [BenefitCode.update])
  · intro entry member coded
    exact written entry member coded (quotesIntegration_ClaimExtender, _) (by simp [BenefitCode.update])
  · intro column inside uncoded
    rw [← carried.cells column inside]
    apply UpdatePlan.runOn_kept (sqlEquals collation.toCollation) target quoteOrPolicy_BenefitCode
      benefitUpdates.updates moved keyTarget benefitUpdates.keeps_key updatesApart
      (targetName column) (present column inside)
    intro update member selected assigned
    rcases List.mem_map.mp member with ⟨entry, listed, rfl⟩
    simp only [KeyedUpdate.assigned, BenefitCode.update, List.map_cons, List.map_nil,
      List.mem_cons, List.not_mem_nil, or_false] at assigned
    exact uncoded (targetName_updated column assigned) entry listed ((selects_iff entry).mpr selected)

theorem onTable_reaches (apart : CodesApart collation.toCollation) (before stored : SqlTable)
    (keyed : quoteOrPolicy_BenefitCode ∈ before.columns) (migrated : Migrated stored.columns)
    (carries : Carries targetName before stored) :
    ReachesTarget collation.toCollation before
      (benefitUpdates.onTable (sqlEquals collation.toCollation) stored) := by
  refine ⟨migrated, ?_⟩
  apply List.forall₂_map_right_iff.mpr
  exact carries.rows.imp (runOn_reaches collation apart before.columns stored.columns keyed migrated
    carries.columns)

end Updates

end ReferenceData
