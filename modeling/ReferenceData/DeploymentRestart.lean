import ReferenceData.BenefitMapRestart
import ReferenceData.DeploymentOutcomes

namespace ReferenceData

open Sql

section Interruptions

variable (collation : Collation)

def InterruptedScript (script : DBScript) : SqlDatabase → SqlDatabase → Prop :=
  InterruptedFile (sqlEquals collation) script.batches

theorem interruptedScript_confined (script : DBScript) :
    Convergence.ConfinedStop script.table (InterruptedScript collation script) :=
  interruptedFile_confined (sqlEquals collation) script.table script.batches script.batches_within

/-- A deployment is a run of attempts which all came to their ends. -/
theorem deployAll_attempts (scripts run : List DBScript) (among : run ⊆ scripts)
    (tables : SqlDatabase) :
    Relation.ReflTransGen (Convergence.Attempts (InterruptedScript collation) scripts) tables
      (deployAll collation run tables) := by
  induction run generalizing tables with
  | nil => exact .refl
  | cons script run ih =>
      have member : script ∈ scripts := among List.mem_cons_self
      have first : InterruptedScript collation script tables (deploy collation tables script) :=
        runFile_interrupted (sqlEquals collation) script.batches tables
      exact .head ⟨script, member, first⟩ (ih (List.subset_of_cons_subset among) _)

theorem interruptedScript_addBankCodeColumn (tables tablesAfter : SqlDatabase)
    (stopped : InterruptedScript collation .addBankCodeColumn tables tablesAfter) :
    tablesAfter = tables ∨ tablesAfter = deploy collation tables .addBankCodeColumn :=
  interruptedFile_act (sqlEquals collation) tables _ rfl tablesAfter stopped

theorem resumes_addBankCodeColumn (tables tablesAfter : SqlDatabase)
    (stops : Relation.ReflTransGen (InterruptedScript collation .addBankCodeColumn)
      tables tablesAfter) :
    deploy collation tablesAfter .addBankCodeColumn = deploy collation tables .addBankCodeColumn := by
  induction stops with
  | refl => rfl
  | tail _ stopped ih =>
      rcases interruptedScript_addBankCodeColumn collation _ _ stopped with rfl | rfl
      · exact ih
      · rw [addBankCodeColumn_repeatable collation, ih]

end Interruptions

section Restart

variable (collation : EquivalenceCollation) (apart : CodesApart collation.toCollation)

include apart

theorem resumes_tkt1044 (tables tablesAfter : SqlDatabase)
    (stops : Relation.ReflTransGen (InterruptedScript collation.toCollation .tkt1044)
      tables tablesAfter) :
    deploy collation.toCollation tablesAfter .tkt1044 benefitMap =
      deploy collation.toCollation tables .tkt1044 benefitMap := by
  cases found : tables benefitMap with
  | none =>
      have untouched : tablesAfter = tables := by
        induction stops with
        | refl => rfl
        | tail _ stopped ih =>
            rw [ih] at stopped
            exact interrupted_missing collation.toCollation tables _ found stopped
      rw [untouched]
  | some before =>
      rcases interrupted_runs collation tables before apart found tablesAfter stops with
        ⟨⟨current, rfl, halfway⟩, untouched⟩
      by_cases bound : benefitUpdates.Bound before.columns
      · have here : Function.update tables benefitMap (some current) benefitMap = some current :=
          Function.update_self _ _ _
        have resumed : benefitUpdates.Bound current.columns := halfway.columns ▸ bound
        calc
          _ = some (benefitUpdates.onTable (sqlEquals collation.toCollation) current) := by
            rw [deploy_tkt1044_bound collation.toCollation _ current here resumed,
              Function.update_self]
          _ = some (benefitUpdates.onTable (sqlEquals collation.toCollation) before) := by
            rw [benefitUpdates.onTable_halfway (sqlEquals collation.toCollation) before current bound
              (benefitUpdates_apart collation apart) halfway]
          _ = _ := by
            rw [deploy_tkt1044_bound collation.toCollation tables before found bound,
              Function.update_self]
      · rw [untouched bound]

/-- However the scripts are begun and given up, in whatever order, running them all to their
ends leaves what it would have left at once. -/
theorem deployment_converges (tables tablesAfter : SqlDatabase) (scripts : List DBScript)
    (attempts : Relation.ReflTransGen
      (Convergence.Attempts (InterruptedScript collation.toCollation) scripts) tables tablesAfter) :
    deployAll collation.toCollation scripts tablesAfter =
      deployAll collation.toCollation scripts tables := by
  apply Convergence.attempts_converge DBScript.table (deploy collation.toCollation)
    (InterruptedScript collation.toCollation) (deploy_placed collation.toCollation)
    (interruptedScript_confined collation.toCollation) (deploy_repeatable collation apart) scripts
    _ tables tablesAfter attempts
  intro store after script stops
  cases script with
  | tkt1044 => exact resumes_tkt1044 collation apart store after stops
  | addBankCodeColumn =>
      exact congrFun (resumes_addBankCodeColumn collation.toCollation store after stops) _
  | tkt643 =>
      rw [deploy_tkt643, deploy_tkt643, DBScript.table, Function.update_self, Function.update_self]

end Restart

section Mock

def recreatedMock : SqlDatabase :=
  Function.update deploymentMock underwritingRequirementsMap
    (some (.empty underwritingRequirementsMapColumns underwritingRequirementsMapColumns_nodup))

/-- The connection was lost between DROP TABLE and CREATE TABLE. -/
def droppedMock : SqlDatabase := Function.update deploymentMock underwritingRequirementsMap none

theorem dropped_interrupted :
    InterruptedScript asciiCollation.toCollation .tkt643 recreatedMock droppedMock := by
  refine ⟨_, .beyond _ _ _ _ (.before _ _), ?_⟩
  simp [Batch.perform, Session.connect, Session.drop, disconnect, recreatedMock, droppedMock]

theorem deployment_converges_mock :
    deployAll asciiEquivalence.toCollation [.tkt1044, .tkt643] droppedMock =
      deployAll asciiEquivalence.toCollation [.tkt1044, .tkt643] recreatedMock :=
  deployment_converges asciiEquivalence codesApart_ascii recreatedMock droppedMock
    [.tkt1044, .tkt643] (.single ⟨.tkt643, by decide, dropped_interrupted⟩)

end Mock

end ReferenceData
