import ReferenceData.BenefitMapTarget

namespace ReferenceData

open Sql

section Schema

variable (collation : Collation) (tables : SqlDatabase) (before : SqlTable)

theorem createColumns_evolve (name : String → String) (needed gone : List String)
    (waits : quotesIntegrationApi_WaitingPeriod ∉ gone)
    (extending : quotesIntegration_ClaimExtender ∉ gone) :
    Triple (sqlEquals collation) (Holds tables benefitMap (Evolved name before needed gone))
      (.block createColumns) []
      (Holds tables benefitMap (Evolved name before
        (quotesIntegration_ClaimExtender :: quotesIntegrationApi_WaitingPeriod :: needed) gone)) := by
  apply triple_block_cons _ _ _ _ _ _ [] []
  · exact triple_holds_selectAll _ _ _ _
  apply triple_block_cons _ _ _ _ _ _ [] []
  · exact triple_createColumn _ _ _ _ _ _ _ _ _ _ _ waits
  apply triple_block_cons _ _ _ _ _ _ [] []
  · exact triple_holds_selectAll _ _ _ _
  apply triple_block_cons _ _ _ _ _ _ [] []
  · exact triple_createColumn _ _ _ _ _ _ _ _ _ _ _ extending
  apply triple_block_cons _ _ _ _ _ _ [] []
  · exact triple_holds_selectAll _ _ _ _
  exact triple_block_nil _ _

theorem schemaChanges_evolve (found : tables benefitMap = some before)
    (start : PartiallyMigrated before.columns) :
    Triple (sqlEquals collation) (fun session => session.tables = tables) (.block schemaChanges) []
      (Holds tables benefitMap (SchemaReached before)) := by
  have named : quotesIntegrationApi_BenefiCode ∈ before.columns ∨
      quotesIntegrationApi_BenefitCode ∈ before.columns := by
    by_cases present : quotesIntegrationApi_BenefitCode ∈ before.columns
    · exact Or.inr present
    · exact Or.inl (start.either.mpr present)
  have renames := triple_renameGuarded (sqlEquals collation) tables benefitMap before
    quotesIntegrationApi_BenefiCode quotesIntegrationApi_BenefitCode
    "Renaming column 'QuotesIntegrationApi_BenefiCode'" start.either.mp found
  have evolves := triple_holds_weaken (sqlEquals collation) tables benefitMap _ _
    (Evolved targetName before [quotesIntegrationApi_BenefitCode] [quotesIntegrationApi_BenefiCode])
    _ _ renames (fun stored reached =>
      evolved_renamed before _ _ stored (by decide) named reached.1 reached.2)
  exact triple_block_cons (sqlEquals collation) _ _ _ _ _ [] [] evolves
    (createColumns_evolve collation tables before targetName _ _ (by decide) (by decide))

theorem schemaChanges_transactionFree : ∀ stmt ∈ schemaChanges, TransactionFree stmt := by
  simp [schemaChanges, createColumns, renameBenefitCode, renameGuarded, selectBenefitMap,
    createWaitingPeriod, createClaimExtender, Stmt.block, TransactionFree, Action.TransactionFree]

/-- A table with both names of the benefit code column makes the rename fail. -/
def renameErrors (columns : List String) : List (Error String) :=
  if quotesIntegrationApi_BenefiCode ∈ columns ∧ quotesIntegrationApi_BenefitCode ∈ columns then
    [.columnInUse quotesIntegrationApi_BenefitCode]
  else []

theorem schemaChanges_runs (found : tables benefitMap = some before) :
    Triple (sqlEquals collation) (fun session => session.tables = tables) (.block schemaChanges)
      (renameErrors before.columns) (fun _ => True) := by
  have rest := fun name => createColumns_evolve collation tables before name [] []
    List.not_mem_nil List.not_mem_nil
  by_cases both : quotesIntegrationApi_BenefiCode ∈ before.columns ∧
      quotesIntegrationApi_BenefitCode ∈ before.columns
  · rw [renameErrors, if_pos both]
    have refused := triple_renameTaken (sqlEquals collation) tables benefitMap before
      quotesIntegrationApi_BenefiCode quotesIntegrationApi_BenefitCode
      "Renaming column 'QuotesIntegrationApi_BenefiCode'" both.1 both.2 found
    exact triple_weaken _ _ _ _ _ _
      (triple_block_cons (sqlEquals collation) _ _ _ _ _ [_] [] refused (rest id))
      (fun _ _ => trivial)
  · rw [renameErrors, if_neg both]
    have renames := triple_renameGuarded (sqlEquals collation) tables benefitMap before
      quotesIntegrationApi_BenefiCode quotesIntegrationApi_BenefitCode
      "Renaming column 'QuotesIntegrationApi_BenefiCode'" (fun old new => both ⟨old, new⟩) found
    have evolves := triple_holds_weaken (sqlEquals collation) tables benefitMap _ _
      (Evolved targetName before [] []) _ _ renames
      (fun _ reached => ⟨reached.1, by simp, by simp⟩)
    exact triple_weaken _ _ _ _ _ _
      (triple_block_cons (sqlEquals collation) _ _ _ _ _ [] [] evolves (rest targetName))
      (fun _ _ => trivial)

theorem schemaChanges_idle (found : tables benefitMap = some before)
    (gone : quotesIntegrationApi_BenefiCode ∉ before.columns) (migrated : Migrated before.columns) :
    Triple (sqlEquals collation) (fun session => session.tables = tables) (.block schemaChanges) []
      (fun session => session.tables = tables) := by
  have shut : ∀ (expected : Bool) (column : String) (body : Stmt String SqlValue),
      tables.hasColumn benefitMap column ≠ expected →
      Triple (sqlEquals collation) (fun session => session.tables = tables)
        (.ifColumn expected benefitMap column body) [] (fun session => session.tables = tables) := by
    intro expected column body guard
    apply triple_ifColumn
    · intro session start
      rw [start.1] at start
      exact absurd start.2 guard
    · intro session stands _
      exact ⟨rfl, stands⟩
  have shown : Triple (sqlEquals collation) (fun session => session.tables = tables)
      selectBenefitMap [] (fun session => session.tables = tables) := by
    apply triple_selectAll
    · intro session stands
      exact ⟨before, by rw [stands, found]⟩
    · intro session item stands
      exact stands
  have present : ∀ column ∈ targetColumns, tables.hasColumn benefitMap column = true := by
    intro column member
    simpa [Database.hasColumn, found] using migrated column member
  apply triple_block_cons _ _ _ _ _ _ [] []
    (shut _ _ _ (by simpa [Database.hasColumn, found] using gone))
  apply triple_block_cons _ _ _ _ _ _ [] [] shown
  apply triple_block_cons _ _ _ _ _ _ [] []
    (shut _ _ _ (by simp [present quotesIntegrationApi_WaitingPeriod (by simp [targetColumns])]))
  apply triple_block_cons _ _ _ _ _ _ [] [] shown
  apply triple_block_cons _ _ _ _ _ _ [] []
    (shut _ _ _ (by simp [present quotesIntegration_ClaimExtender (by simp [targetColumns])]))
  apply triple_block_cons _ _ _ _ _ _ [] [] shown
  exact triple_block_nil _ _

theorem schemaChanges_unbound : schemaChanges.flatMap (fun stmt => stmt.unbound tables) = [] := by
  simp [schemaChanges, createColumns, renameBenefitCode, renameGuarded, selectBenefitMap,
    createWaitingPeriod, createClaimExtender, Stmt.block, Stmt.unbound]

end Schema

end ReferenceData
