import ReferenceData.BenefitMapMigration
import ReferenceData.Library.Sql.Interruption
import ReferenceData.Library.Sql.Restart

namespace ReferenceData

open Sql

section Interruption

variable (collation : Collation) (tables tablesAfter : SqlDatabase)

theorem interrupted_cases
    (stopped : InterruptedFile (sqlEquals collation) tkt1044Batches tables tablesAfter) :
    tablesAfter = tables ∨ ((Stmt.block tkt1044).unbound tables = [] ∧
      ∃ session machine, session.tables = tables ∧ session.transaction = none ∧
        Reaches (sqlEquals collation) ⟨benefitUpdates.script, session⟩ machine ∧
        tablesAfter = disconnect machine.session) := by
  rcases interruptedFile_single (sqlEquals collation) tkt1044 tables tablesAfter stopped with
    same | ⟨bound, machine, reached, rfl⟩
  · exact Or.inl same
  · rw [tkt1044_eq] at reached
    rcases reaches_split (sqlEquals collation) _ _ _ machine reached with
      ⟨todo, within, _⟩ | ⟨session, finished, beyond⟩
    · exact Or.inl (reaches_rolledBack (sqlEquals collation) schemaChanges
        schemaChanges_transactionFree _ rfl _ within).1
    · rcases reaches_rolledBack (sqlEquals collation) schemaChanges schemaChanges_transactionFree
        _ rfl _ finished with ⟨left, ended⟩
      have closed : session.transaction = none := ended rfl
      simp only [disconnect, closed] at left
      exact Or.inr ⟨bound, session, machine, left, closed, beyond, rfl⟩

theorem tkt1044_interrupted (before : SqlTable) (found : tables benefitMap = some before)
    (stopped : InterruptedFile (sqlEquals collation) tkt1044Batches tables tablesAfter) :
    tablesAfter = tables ∨
      (benefitUpdates.Bound before.columns ∧ ∃ count, tablesAfter = Function.update tables benefitMap
        (some (benefitUpdates.onFirst (sqlEquals collation) count before))) := by
  rcases interrupted_cases collation tables tablesAfter stopped with
    same | ⟨named, session, machine, stands, closed, reached, rfl⟩
  · exact Or.inl same
  · right
    rw [tkt1044_unbound tables before found, List.flatMap_eq_nil_iff] at named
    refine ⟨(missingColumns_nil_iff before.columns).mp
      (named _ (List.head_mem (l := benefitCodes) (by decide))), ?_⟩
    rcases UpdatePlan.reaches_updates (sqlEquals collation) _ _ _ before session
      (by rw [stands]; exact found) machine reached with ⟨count, kept, updated⟩
    refine ⟨count, ?_⟩
    rw [disconnect, kept, closed, updated, stands]
    rfl

theorem interrupted_missing (missing : tables benefitMap = none)
    (stopped : InterruptedFile (sqlEquals collation) tkt1044Batches tables tablesAfter) :
    tablesAfter = tables := by
  rcases interrupted_cases collation tables tablesAfter stopped with
    same | ⟨_, session, machine, stands, closed, reached, rfl⟩
  · exact same
  · have stuck : step (sqlEquals collation) ⟨benefitUpdates.script, session⟩ = none := by
      have absent : session.tables benefitMap = none := by rw [stands, missing]
      have first : benefitUpdates.script = .act (.update benefitMap
          (BenefitCode.update ⟨"CILS", "", "Y"⟩).assignments quoteOrPolicy_BenefitCode
          (BenefitCode.update ⟨"CILS", "", "Y"⟩).key) :: benefitUpdates.script.tail := rfl
      rw [first]
      simp [step, stepHead, performAction, exec, execUpdate, absent, Action.survivable]
    rw [reaches_stuck (sqlEquals collation) _ _ stuck reached, disconnect, closed, stands]

end Interruption

section Restart

variable (collation : EquivalenceCollation) (tables : SqlDatabase) (before : SqlTable)

/-- The database as interrupted runs can leave it: the benefit map has its columns and all its
rows, each untouched or with all that the updates bring it, and no other table has changed. -/
structure PartlyUpdated (tablesAfter : SqlDatabase) : Prop where
  reached : ∃ current, tablesAfter = Function.update tables benefitMap (some current) ∧
    benefitUpdates.Halfway (sqlEquals collation.toCollation) before current
  untouched : ¬ benefitUpdates.Bound before.columns → tablesAfter = tables

theorem partlyUpdated_start (found : tables benefitMap = some before) :
    PartlyUpdated collation tables before tables :=
  ⟨⟨before, (Function.update_eq_self_iff.mpr found.symm).symm,
    benefitUpdates.halfway_refl (sqlEquals collation.toCollation) before⟩, fun _ => rfl⟩

theorem partlyUpdated_step (apart : CodesApart collation.toCollation)
    (middle tablesAfter : SqlDatabase) (partly : PartlyUpdated collation tables before middle)
    (stopped : InterruptedFile (sqlEquals collation.toCollation) tkt1044Batches middle tablesAfter) :
    PartlyUpdated collation tables before tablesAfter := by
  rcases partly with ⟨⟨current, rfl, halfway⟩, untouched⟩
  have here : Function.update tables benefitMap (some current) benefitMap = some current :=
    Function.update_self _ _ _
  rcases tkt1044_interrupted collation.toCollation _ tablesAfter current here stopped with
    rfl | ⟨bound, count, rfl⟩
  · exact ⟨⟨current, rfl, halfway⟩, untouched⟩
  · rw [halfway.columns] at bound
    refine ⟨⟨_, Function.update_idem _ _ _, ?_⟩, fun unbound => absurd bound unbound⟩
    exact benefitUpdates.halfway_onFirst (sqlEquals collation.toCollation) before current bound
      (benefitUpdates_apart collation apart) halfway count

theorem interrupted_runs (apart : CodesApart collation.toCollation)
    (found : tables benefitMap = some before) (tablesAfter : SqlDatabase)
    (stops : Relation.ReflTransGen
      (InterruptedFile (sqlEquals collation.toCollation) tkt1044Batches) tables tablesAfter) :
    PartlyUpdated collation tables before tablesAfter := by
  induction stops with
  | refl => exact partlyUpdated_start collation tables before found
  | tail _ stopped ih => exact partlyUpdated_step collation tables before apart _ _ ih stopped

end Restart

end ReferenceData
