import ReferenceData.BenefitMapSchema

namespace ReferenceData

open Sql

section Script

variable (collation : Collation) (tables : SqlDatabase) (before : SqlTable)

def updateColumns : List String :=
  [quoteOrPolicy_BenefitCode, quotesIntegrationApi_WaitingPeriod, quotesIntegration_ClaimExtender]

def missingColumns (columns : List String) : List String :=
  updateColumns.filter (fun column => column ∉ columns)

theorem updateColumns_bound (columns : List String) :
    benefitUpdates.Bound columns ↔ ∀ column ∈ updateColumns, column ∈ columns := by
  constructor
  · intro bound column member
    have first : (benefitCodes.head (by decide)).update ∈ benefitUpdates.updates :=
      List.mem_map_of_mem (List.head_mem _)
    rcases List.mem_cons.mp member with rfl | assigned
    · exact bound.1
    · exact bound.2 _ first column assigned
  · intro complete
    refine ⟨complete _ List.mem_cons_self, ?_⟩
    intro update member column assigned
    rcases List.mem_map.mp member with ⟨entry, _, rfl⟩
    exact complete column (List.mem_cons_of_mem _ assigned)

theorem missingColumns_nil_iff (columns : List String) :
    missingColumns columns = [] ↔ benefitUpdates.Bound columns := by
  rw [updateColumns_bound, missingColumns, List.filter_eq_nil_iff]
  simp

theorem tkt1044_unbound (found : tables benefitMap = some before) :
    (Stmt.block tkt1044).unbound tables =
      benefitCodes.flatMap (fun _ => missingColumns before.columns) := by
  have opening : (rolledBack schemaChanges).flatMap (fun stmt => stmt.unbound tables) = [] := by
    simp [rolledBack, schemaChanges_unbound, Stmt.unbound]
  calc
    _ = (Stmt.block benefitUpdates.script).unbound tables := by
      rw [tkt1044_eq, unbound_block, List.flatMap_append, opening, List.nil_append, unbound_block]
    _ = benefitUpdates.updates.flatMap (fun update =>
        (benefitUpdates.keyColumn :: update.assigned).filter
          (fun column => column ∉ before.columns)) :=
      benefitUpdates.unbound_script tables before found
    _ = benefitCodes.flatMap (fun _ => missingColumns before.columns) := by
      rw [benefitUpdates, List.flatMap_map]
      rfl

/-- The whole script, on any table: unbound it does nothing, and bound its updates are all that
lasts. -/
theorem tkt1044_runs (found : tables benefitMap = some before) :
    runFile (sqlEquals collation) tkt1044Batches tables =
      if missingColumns before.columns = [] then
        (Function.update tables benefitMap
          (some (benefitUpdates.onTable (sqlEquals collation) before)),
          (renameErrors before.columns).map .statement)
      else (tables, (benefitCodes.flatMap (fun _ => missingColumns before.columns)).map
        (fun column => .statement (.invalidColumn column))) := by
  have names : (Stmt.block tkt1044).unbound (Session.connect tables).tables = _ :=
    tkt1044_unbound tables before found
  rw [tkt1044Batches, runFile_single]
  split
  · rename_i complete
    have bound : (Stmt.block tkt1044).unbound (Session.connect tables).tables = [] := by
      rw [names, complete]
      rfl
    rcases triple_rolledBack (sqlEquals collation) schemaChanges schemaChanges_transactionFree
        (renameErrors before.columns) tables (schemaChanges_runs collation tables before found)
        (Session.connect tables) ⟨rfl, rfl⟩ with ⟨session, opening, stands, closed⟩
    have updates := benefitUpdates.perform_script (sqlEquals collation) before
      ((missingColumns_nil_iff before.columns).mp complete) session (by rw [stands]; exact found)
    rw [batch_bound _ _ _ bound, tkt1044_eq, perform_block_append, opening]
    simp [Performed.follow, updates, disconnect, Session.store, closed, stands]
    rfl
  · rename_i incomplete
    have missing : (Stmt.block tkt1044).unbound (Session.connect tables).tables ≠ [] := by
      intro none
      rw [names, List.flatMap_eq_nil_iff] at none
      exact incomplete (none _ (List.head_mem (l := benefitCodes) (by decide)))
    rw [batch_unbound _ _ _ missing, names]
    rfl

end Script

section Runs

variable (collation : EquivalenceCollation) (tables : SqlDatabase) (before : SqlTable)

theorem meetsTarget_of_runs (apart : CodesApart collation.toCollation) (file : List SqlBatch)
    (stored : SqlTable) (keyed : quoteOrPolicy_BenefitCode ∈ before.columns)
    (evolved : SchemaReached before stored)
    (first : runFile (sqlEquals collation.toCollation) file tables =
      (Function.update tables benefitMap
        (some (benefitUpdates.onTable (sqlEquals collation.toCollation) stored)), []))
    (again : ∀ (later : SqlDatabase) (reached : SqlTable), later benefitMap = some reached →
      reached.columns = stored.columns →
      runFile (sqlEquals collation.toCollation) file later = (Function.update later benefitMap
        (some (benefitUpdates.onTable (sqlEquals collation.toCollation) reached)), [])) :
    MeetsTarget collation.toCollation file tables before := by
  have migrated : Migrated stored.columns := evolved.needed
  have bound := benefitUpdates_bound stored.columns (evolved.carries.columns _ keyed) migrated
  have updatesApart := benefitUpdates_apart collation apart
  let reached := benefitUpdates.onTable (sqlEquals collation.toCollation) stored
  let tablesAfter := Function.update tables benefitMap (some reached)
  have here : tablesAfter benefitMap = some reached := Function.update_self _ _ _
  have rerun := again tablesAfter reached here rfl
  rw [benefitUpdates.onTable_idem (sqlEquals collation.toCollation) stored bound updatesApart,
    Function.update_eq_self_iff.mpr here.symm] at rerun
  exact ⟨reached, tablesAfter, first, here,
    onTable_reaches collation apart before stored keyed migrated evolved.carries, rerun⟩

theorem migrated_gone (start : PartiallyMigrated before.columns)
    (migrated : Migrated before.columns) : quotesIntegrationApi_BenefiCode ∉ before.columns := by
  intro member
  exact start.either.mp member (migrated _ (by simp [targetColumns]))

theorem migrated_evolved (start : PartiallyMigrated before.columns)
    (migrated : Migrated before.columns) : SchemaReached before before := by
  have gone := migrated_gone before start migrated
  refine ⟨carries_fixed targetName before ?_, migrated, ?_⟩
  · intro column member
    have notOld : column ≠ quotesIntegrationApi_BenefiCode := fun same => gone (same ▸ member)
    exact if_neg notOld
  · intro column member
    rw [List.mem_singleton.mp member]
    exact gone

theorem meetsTarget_migrated (found : tables benefitMap = some before)
    (meets : MeetsTarget collation.toCollation tkt1044Batches tables before) :
    Migrated before.columns := by
  rcases meets with ⟨after, tablesAfter, ran, stands, reaches, _⟩
  rw [tkt1044_runs collation.toCollation tables before found] at ran
  split at ran
  · rcases Prod.mk.inj ran with ⟨rfl, _⟩
    rw [Function.update_self] at stands
    cases stands
    exact reaches.columns
  · rename_i incomplete
    have none := (List.map_eq_nil_iff.mp (congrArg Prod.snd ran))
    exact absurd (List.flatMap_eq_nil_iff.mp none _ (List.head_mem (l := benefitCodes) (by decide)))
      incomplete

/-- As it stands the script does its work only where that has been done before: what it
changes of the schema it also undoes. -/
theorem migration_meets_target_iff (apart : CodesApart collation.toCollation)
    (found : tables benefitMap = some before) (start : PartiallyMigrated before.columns) :
    MeetsTarget collation.toCollation tkt1044Batches tables before ↔ Migrated before.columns := by
  constructor
  · exact meetsTarget_migrated collation tables before found
  · intro migrated
    have bound := benefitUpdates_bound before.columns start.keyed migrated
    have single : renameErrors before.columns = [] :=
      if_neg (fun both => start.either.mp both.1 both.2)
    have runs : ∀ (later : SqlDatabase) (reached : SqlTable), later benefitMap = some reached →
        reached.columns = before.columns →
        runFile (sqlEquals collation.toCollation) tkt1044Batches later =
          (Function.update later benefitMap
            (some (benefitUpdates.onTable (sqlEquals collation.toCollation) reached)), []) := by
      intro later reached stands columns
      rw [tkt1044_runs collation.toCollation later reached stands, columns, single,
        if_pos ((missingColumns_nil_iff before.columns).mpr bound)]
      rfl
    exact meetsTarget_of_runs collation tables before apart _ before start.keyed
      (migrated_evolved before start migrated) (runs tables before found rfl) runs

section Mock

def storing (table : SqlTable) : SqlDatabase := fun name => if name = benefitMap then some table else none

def migratedMock : SqlTable where
  columns := [quoteOrPolicy_BenefitCode, quotesIntegrationApi_BenefitCode,
    quotesIntegrationApi_WaitingPeriod, quotesIntegration_ClaimExtender]
  rows := [[some (.nvarchar "BOP14"), some (.nvarchar "BOP"), none, some (.nvarchar "")]]
  columns_nodup := by decide
  rows_width := by decide

def unmigratedMock : SqlTable where
  columns := [quoteOrPolicy_BenefitCode, quotesIntegrationApi_BenefiCode]
  rows := [[some (.nvarchar "BOP14"), some (.nvarchar "BOP")]]
  columns_nodup := by decide
  rows_width := by decide

theorem migration_meets_target_iff_mock :
    MeetsTarget asciiCollation.toCollation tkt1044Batches (storing migratedMock) migratedMock :=
  (migration_meets_target_iff asciiEquivalence (storing migratedMock) migratedMock
    (by unfold CodesApart; decide) rfl ⟨by decide, by decide⟩).mpr (by unfold Migrated; decide)

/-- On the table the ticket is about, the updates name columns which do not outlast the
transaction before them, and which are not there when the batch begins. -/
theorem migration_misses_target :
    PartiallyMigrated unmigratedMock.columns ∧
    .statement (.invalidColumn quotesIntegrationApi_WaitingPeriod) ∈
      (runFile (sqlEquals asciiCollation.toCollation) tkt1044Batches (storing unmigratedMock)).2 ∧
    ¬ MeetsTarget asciiCollation.toCollation tkt1044Batches (storing unmigratedMock)
      unmigratedMock := by
  refine ⟨⟨by decide, by decide⟩, by decide, ?_⟩
  intro meets
  have migrated := meetsTarget_migrated asciiEquivalence _ _ rfl meets
  exact absurd (migrated quotesIntegrationApi_WaitingPeriod (by decide)) (by decide)

end Mock

def committedTkt1044 : List SqlBatch :=
  [.statements (committed schemaChanges), .statements benefitUpdates.script]

theorem committed_runs (evolved : SqlTable → Prop)
    (bound : ∀ stored, evolved stored → benefitUpdates.Bound stored.columns)
    (evolves : Triple (sqlEquals collation.toCollation) (fun session => session.tables = tables)
      (.block schemaChanges) [] (Holds tables benefitMap evolved)) :
    ∃ stored, evolved stored ∧
      runFile (sqlEquals collation.toCollation) committedTkt1044 tables =
        (Function.update tables benefitMap
          (some (benefitUpdates.onTable (sqlEquals collation.toCollation) stored)), []) := by
  have named : (Stmt.block (committed schemaChanges)).unbound tables = [] := by
    rw [unbound_block]
    simp [committed, schemaChanges_unbound, Stmt.unbound]
  rcases triple_committed (sqlEquals collation.toCollation) schemaChanges
      schemaChanges_transactionFree [] (fun held => held = tables)
      (fun held => ∃ stored, held = Function.update tables benefitMap (some stored) ∧
        evolved stored) evolves (Session.connect tables) ⟨rfl, rfl⟩ with
    ⟨session, opening, ⟨stored, stands, reached⟩, closed⟩
  have found : session.tables benefitMap = some stored := by
    rw [stands]
    exact Function.update_self _ _ _
  have first := batch_bound (sqlEquals collation.toCollation) (committed schemaChanges)
    (Session.connect tables) named
  have second := batch_bound (sqlEquals collation.toCollation) benefitUpdates.script session
    (benefitUpdates.unbound_bound session.tables stored found (bound stored reached))
  rw [opening] at first
  rw [benefitUpdates.perform_script (sqlEquals collation.toCollation) stored (bound stored reached)
    session found] at second
  refine ⟨stored, reached, ?_⟩
  simp only [runFile, committedTkt1044, runBatches, first, second]
  rw [show benefitUpdates.table = benefitMap from rfl]
  simp [disconnect, Session.store, closed, stands]

/-- With COMMIT for ROLLBACK, and the updates in a batch of their own, the same statements meet
the target from every partially migrated table. -/
theorem committed_meets_target (apart : CodesApart collation.toCollation)
    (found : tables benefitMap = some before) (start : PartiallyMigrated before.columns) :
    MeetsTarget collation.toCollation committedTkt1044 tables before := by
  have ready : ∀ stored, SchemaReached before stored → benefitUpdates.Bound stored.columns :=
    fun stored evolved => benefitUpdates_bound stored.columns
      (evolved.carries.columns _ start.keyed) evolved.needed
  rcases committed_runs collation tables (SchemaReached before) ready
      (schemaChanges_evolve collation.toCollation tables before found start) with
    ⟨stored, evolved, first⟩
  apply meetsTarget_of_runs collation tables before apart _ stored start.keyed evolved first
  intro later reached here columns
  have gone : quotesIntegrationApi_BenefiCode ∉ reached.columns :=
    columns ▸ evolved.gone _ List.mem_cons_self
  have idle := schemaChanges_idle collation.toCollation later reached here gone
    (columns ▸ evolved.needed)
  have stays := triple_weaken _ _ _ (Holds later benefitMap (fun stored => stored = reached)) _ _
    idle (fun _ stands => ⟨reached, by
      rw [stands, Function.update_eq_self_iff.mpr here.symm], rfl⟩)
  rcases committed_runs collation later (fun stored => stored = reached)
      (fun other same => by rw [same, columns]; exact ready stored evolved) stays with
    ⟨_, rfl, again⟩
  exact again

end Runs

end ReferenceData
