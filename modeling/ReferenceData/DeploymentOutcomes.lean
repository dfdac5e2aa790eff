import ReferenceData.Deployments

namespace ReferenceData

open Sql

section Outcomes

variable (collation : Collation) (tables : SqlDatabase)

def outcome : DBScript → SqlDatabase × List (BatchError String)
  | .addBankCodeColumn =>
      match tables banks with
      | none => (tables, [.statement (.invalidObject banks)])
      | some stored =>
          if fresh : bankCode ∉ stored.columns then
            (Function.update tables banks
              (some (stored.addColumn bankCode true (.nvarchar "") fresh)), [])
          else (tables, [.statement (.columnInUse bankCode)])
  | .tkt1044 =>
      match tables benefitMap with
      | none => (tables, [.statement (.invalidObject benefitMap)])
      | some before =>
          if missingColumns before.columns = [] then
            (Function.update tables benefitMap
              (some (benefitUpdates.onTable (sqlEquals collation) before)),
              (renameErrors before.columns).map .statement)
          else (tables, (benefitCodes.flatMap (fun _ => missingColumns before.columns)).map
            (fun column => .statement (.invalidColumn column)))
  | .tkt643 =>
      (Function.update tables underwritingRequirementsMap
        (some (.empty underwritingRequirementsMapColumns underwritingRequirementsMapColumns_nodup)),
        [.missingEndComment])

/-- The SELECT behind the guarded rename is the first to need the table. -/
theorem tkt1044_missing (missing : tables benefitMap = none) :
    runFile (sqlEquals collation) tkt1044Batches tables =
      (tables, [.statement (.invalidObject benefitMap)]) := by
  have absent : ∀ column, tables.hasColumn benefitMap column = false := by
    intro column
    simp [Database.hasColumn, missing]
  have unnamed : benefitUpdates.script.flatMap (fun stmt => stmt.unbound tables) = [] := by
    apply List.flatMap_eq_nil_iff.mpr
    intro stmt member
    rcases List.mem_map.mp member with ⟨update, _, rfl⟩
    simp only [Stmt.unbound]
    rw [show tables benefitUpdates.table = none from missing]
  have bound : (Stmt.block tkt1044).unbound (Session.connect tables).tables = [] := by
    change (Stmt.block tkt1044).unbound tables = []
    rw [tkt1044_eq, unbound_block, List.flatMap_append, unnamed]
    simp [rolledBack, schemaChanges_unbound, Stmt.unbound]
  have stopped : perform (sqlEquals collation) (.block tkt1044) (Session.connect tables) =
      ⟨execBegin (Session.connect tables), [.invalidObject benefitMap], false⟩ := by
    change perform (sqlEquals collation) (.seq (.act .beginTran) (.seq renameBenefitCode
      (.seq selectBenefitMap _))) (Session.connect tables) = _
    simp [perform, Performed.follow, performAction, exec, execBegin, Session.connect,
      renameBenefitCode, renameGuarded, selectBenefitMap, absent, missing, Action.survivable]
  rw [tkt1044Batches, runFile_single, batch_bound _ _ _ bound, stopped]
  rfl

theorem tkt643_outcome : runFile (sqlEquals collation) tkt643 tables =
    outcome collation tables .tkt643 := by
  cases found : tables underwritingRequirementsMap with
  | none =>
      simp [outcome, tkt643, runFile, runBatches, Batch.perform, Session.connect, found,
        Session.store, disconnect]
  | some stored =>
      simp [outcome, tkt643, runFile, runBatches, Batch.perform, Session.connect, found,
        Session.drop, Session.store, disconnect]

theorem addBankCodeColumn_outcome : runFile (sqlEquals collation) addBankCodeColumn tables =
    outcome collation tables .addBankCodeColumn := by
  rw [addBankCodeColumn, runFile_act (sqlEquals collation) _ tables rfl, outcome]
  cases found : tables banks with
  | none => simp [performAction, exec, execAdd, Session.connect, found, disconnect]
  | some stored =>
      by_cases fresh : bankCode ∉ stored.columns
      · simp [performAction, exec, execAdd, Session.connect, found, fresh, disconnect, Session.store]
      · simp [performAction, exec, execAdd, Session.connect, found, fresh, disconnect]

theorem script_outcome (script : DBScript) :
    runFile (sqlEquals collation) script.batches tables = outcome collation tables script := by
  cases script with
  | addBankCodeColumn => exact addBankCodeColumn_outcome collation tables
  | tkt643 => exact tkt643_outcome collation tables
  | tkt1044 =>
      rw [DBScript.batches, outcome]
      cases found : tables benefitMap with
      | none => exact tkt1044_missing collation tables found
      | some before => exact tkt1044_runs collation tables before found

end Outcomes

section Single

variable (collation : Collation) (tables : SqlDatabase)

theorem deploy_outcome (script : DBScript) :
    deploy collation tables script = (outcome collation tables script).1 :=
  congrArg Prod.fst (script_outcome collation tables script)

theorem deploy_tkt643 : deploy collation tables .tkt643 =
    Function.update tables underwritingRequirementsMap
      (some (.empty underwritingRequirementsMapColumns underwritingRequirementsMapColumns_nodup)) :=
  deploy_outcome collation tables .tkt643

theorem deploy_tkt1044_bound (before : SqlTable) (found : tables benefitMap = some before)
    (bound : benefitUpdates.Bound before.columns) :
    deploy collation tables .tkt1044 = Function.update tables benefitMap
      (some (benefitUpdates.onTable (sqlEquals collation) before)) := by
  have complete := (missingColumns_nil_iff before.columns).mpr bound
  rw [deploy_outcome, outcome]
  simp only [found, if_pos complete]

theorem deploy_tkt1044 : deploy collation tables .tkt1044 = tables ∨
    ∃ before, tables benefitMap = some before ∧ benefitUpdates.Bound before.columns ∧
      deploy collation tables .tkt1044 = Function.update tables benefitMap
        (some (benefitUpdates.onTable (sqlEquals collation) before)) := by
  cases found : tables benefitMap with
  | none =>
      left
      rw [deploy_outcome, outcome]
      simp only [found]
  | some before =>
      by_cases bound : benefitUpdates.Bound before.columns
      · exact Or.inr ⟨before, rfl, bound, deploy_tkt1044_bound collation tables before found bound⟩
      · left
        have incomplete := fun complete => bound ((missingColumns_nil_iff before.columns).mp complete)
        rw [deploy_outcome, outcome]
        simp only [found, if_neg incomplete]

theorem deploy_benefitMap_columns (script : DBScript) :
    (deploy collation tables script benefitMap).map Table.columns =
      (tables benefitMap).map Table.columns := by
  have elsewhere := Convergence.confined_elsewhere script.table
    (fun state => deploy collation state script) ((deploy_placed collation).confined script) tables
    benefitMap
  cases script with
  | addBankCodeColumn => rw [elsewhere (by decide)]
  | tkt643 => rw [elsewhere (by decide)]
  | tkt1044 =>
      rcases deploy_tkt1044 collation tables with stays | ⟨before, found, _, updated⟩
      · rw [stays]
      · rw [updated, Function.update_self, found]
        rfl

/-- A second ALTER TABLE fails, and changes nothing. -/
theorem deploy_addBankCodeColumn :
    (deploy collation tables .addBankCodeColumn = tables ∧
        ∀ stored, tables banks = some stored → bankCode ∈ stored.columns) ∨
      ∃ stored, ∃ fresh : bankCode ∉ stored.columns, tables banks = some stored ∧
        deploy collation tables .addBankCodeColumn = Function.update tables banks
          (some (stored.addColumn bankCode true (.nvarchar "") fresh)) := by
  rw [deploy_outcome, outcome]
  cases found : tables banks with
  | none => exact Or.inl ⟨rfl, fun stored none => by cases none⟩
  | some stored =>
      dsimp only
      by_cases fresh : bankCode ∉ stored.columns
      · rw [dif_pos fresh]
        exact Or.inr ⟨stored, fresh, rfl, rfl⟩
      · rw [dif_neg fresh]
        refine Or.inl ⟨rfl, ?_⟩
        intro other same
        cases same
        exact not_not.mp fresh

theorem deploy_addBankCodeColumn_present (stored : SqlTable) (found : tables banks = some stored)
    (present : bankCode ∈ stored.columns) :
    deploy collation tables .addBankCodeColumn = tables := by
  rcases deploy_addBankCodeColumn collation tables with ⟨stays, _⟩ | ⟨other, fresh, same, _⟩
  · exact stays
  · rw [found] at same
    cases same
    exact absurd present fresh

end Single

section Repeats

theorem addBankCodeColumn_repeatable (collation : Collation) :
    Convergence.Repeatable (deploy collation) .addBankCodeColumn := by
  intro tables
  rcases deploy_addBankCodeColumn collation tables with ⟨stays, _⟩ | ⟨stored, fresh, found, added⟩
  · rw [stays, stays]
  · rw [added]
    apply deploy_addBankCodeColumn_present collation _ _ (Function.update_self _ _ _)
    exact List.mem_append_right _ List.mem_cons_self

theorem tkt643_repeatable (collation : Collation) :
    Convergence.Repeatable (deploy collation) .tkt643 := by
  intro tables
  simp only [deploy_tkt643, Function.update_idem]

variable (collation : EquivalenceCollation) (apart : CodesApart collation.toCollation)

include apart

theorem tkt1044_repeatable : Convergence.Repeatable (deploy collation.toCollation) .tkt1044 := by
  intro tables
  rcases deploy_tkt1044 collation.toCollation tables with stays | ⟨before, _, bound, updated⟩
  · rw [stays, stays]
  · rw [updated, deploy_tkt1044_bound collation.toCollation _
      (benefitUpdates.onTable (sqlEquals collation.toCollation) before) (Function.update_self _ _ _)
      bound, Function.update_idem, benefitUpdates.onTable_idem (sqlEquals collation.toCollation)
      before bound (benefitUpdates_apart collation apart)]

theorem deploy_repeatable (script : DBScript) :
    Convergence.Repeatable (deploy collation.toCollation) script := by
  cases script with
  | addBankCodeColumn => exact addBankCodeColumn_repeatable collation.toCollation
  | tkt643 => exact tkt643_repeatable collation.toCollation
  | tkt1044 => exact tkt1044_repeatable collation apart

/-- Only which scripts are run matters: not their order, nor how often each is repeated. -/
theorem deployAll_same_scripts (tables : SqlDatabase) (left right : List DBScript)
    (same : ∀ script, script ∈ left ↔ script ∈ right) :
    deployAll collation.toCollation left tables = deployAll collation.toCollation right tables :=
  Convergence.foldl_same_members (deploy collation.toCollation) (deploy_repeatable collation apart)
    (Convergence.placed_commuting DBScript.table _ (deploy_placed collation.toCollation)) tables
    left right same

omit apart in
theorem codesApart_ascii : CodesApart asciiEquivalence.toCollation := by
  unfold CodesApart
  decide

omit collation apart in
theorem deployAll_same_scripts_mock :
    deployAll asciiEquivalence.toCollation [.tkt643, .tkt1044, .tkt643] deploymentMock =
      deployAll asciiEquivalence.toCollation [.tkt1044, .tkt643] deploymentMock :=
  deployAll_same_scripts asciiEquivalence codesApart_ascii deploymentMock _ _
    (fun script => by cases script <;> decide)

end Repeats

section Reports

variable (collation : Collation) (tables : SqlDatabase) (scripts : List DBScript)

theorem deployAll_at (script : DBScript)
    (repeatable : Convergence.Repeatable (deploy collation) script) :
    deployAll collation scripts tables script.table =
      if script ∈ scripts then deploy collation tables script script.table
      else tables script.table := by
  have placed := deploy_placed collation
  split
  · rename_i member
    exact Convergence.placed_at DBScript.table _ placed script repeatable scripts member tables
  · rename_i absent
    apply Convergence.placed_elsewhere DBScript.table _ placed
    intro other member same
    exact absent (placed.apart same ▸ member)

theorem deployAll_benefitMap_columns :
    (deployAll collation scripts tables benefitMap).map Table.columns =
      (tables benefitMap).map Table.columns := by
  induction scripts generalizing tables with
  | nil => rfl
  | cons script scripts ih =>
      calc
        _ = (deploy collation tables script benefitMap).map Table.columns := ih _
        _ = (tables benefitMap).map Table.columns :=
          deploy_benefitMap_columns collation tables script

theorem reports_addBankCodeColumn :
    (outcome collation (deployAll collation scripts tables) .addBankCodeColumn).2 =
      if DBScript.addBankCodeColumn ∈ scripts ∧ (tables banks).isSome then
        [.statement (.columnInUse bankCode)]
      else (outcome collation tables .addBankCodeColumn).2 := by
  have whole := deployAll_at collation tables scripts .addBankCodeColumn
    (addBankCodeColumn_repeatable collation)
  rw [DBScript.table] at whole
  by_cases member : DBScript.addBankCodeColumn ∈ scripts
  · rw [if_pos member] at whole
    rcases deploy_addBankCodeColumn collation tables with
      ⟨stays, present⟩ | ⟨stored, fresh, found, added⟩
    · rw [stays] at whole
      cases found : tables banks with
      | none => simp [outcome, whole, found]
      | some stored =>
          have inUse : bankCode ∈ stored.columns := present stored found
          simp [outcome, whole, found, inUse, member]
    · have reached : deployAll collation scripts tables banks =
          some (stored.addColumn bankCode true (.nvarchar "") fresh) := by
        rw [whole, added]
        exact Function.update_self banks _ tables
      have inUse : bankCode ∈ (stored.addColumn bankCode true (.nvarchar "") fresh).columns :=
        List.mem_append_right _ List.mem_cons_self
      simp [outcome, reached, found, inUse, member]
  · rw [if_neg member] at whole
    rw [if_neg (fun both => member both.1)]
    simp only [outcome, whole]
    cases tables banks with
    | none => rfl
    | some stored =>
        by_cases fresh : bankCode ∉ stored.columns
        · simp [fresh]
        · simp [fresh]

theorem reports_tkt1044 : (outcome collation (deployAll collation scripts tables) .tkt1044).2 =
    (outcome collation tables .tkt1044).2 := by
  have columns := deployAll_benefitMap_columns collation tables scripts
  cases found : tables benefitMap with
  | none =>
      rw [found, Option.map_none, Option.map_eq_none_iff] at columns
      simp only [outcome, found, columns]
  | some before =>
      rw [found] at columns
      rcases Option.map_eq_some_iff.mp columns with ⟨current, reached, same⟩
      simp only [outcome, found, reached, same]
      split <;> rfl

/-- What a script reports in the middle of a deployment is what it reports at the start, but
for the second ALTER TABLE. -/
theorem deployment_reports (script : DBScript) :
    (runFile (sqlEquals collation) script.batches (deployAll collation scripts tables)).2 =
      if script = .addBankCodeColumn ∧ script ∈ scripts ∧ (tables banks).isSome then
        [.statement (.columnInUse bankCode)]
      else (runFile (sqlEquals collation) script.batches tables).2 := by
  rw [script_outcome, script_outcome]
  cases script with
  | addBankCodeColumn =>
      rw [reports_addBankCodeColumn]
      simp
  | tkt643 => rfl
  | tkt1044 => exact reports_tkt1044 collation tables scripts

end Reports

end ReferenceData
