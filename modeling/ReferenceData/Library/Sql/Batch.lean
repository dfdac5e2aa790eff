import ReferenceData.Library.Convergence
import ReferenceData.Library.Sql.Frames

namespace Sql

inductive Batch (ι ν : Type) where
  | statements (script : List (Stmt ι ν))
  | dropTableIfExists (table : ι)
  | createTable (table : ι) (columns : List ι) (nodup : columns.Nodup)
  | setOption (name : String)
  | unterminatedComment

inductive BatchError (ι : Type) where
  | statement (problem : Error ι)
  | tableExists (table : ι)
  | missingEndComment
  deriving DecidableEq, Repr

def Table.empty {ι ν : Type} (columns : List ι) (nodup : columns.Nodup) : Table ι ν where
  columns := columns
  rows := []
  columns_nodup := nodup
  rows_width _ member := absurd member List.not_mem_nil

variable {ι ν : Type} [DecidableEq ι]

def Session.drop (session : Session ι ν) (name : ι) : Session ι ν :=
  { session with tables := Function.update session.tables name none }

def Batch.perform (equals : ν → ν → Bool) :
    Batch ι ν → Session ι ν → Session ι ν × List (BatchError ι)
  | .statements script, session =>
      match (Stmt.block script).unbound session.tables with
      | [] =>
          let performed := Sql.perform equals (.block script) session
          (performed.session, performed.errors.map .statement)
      -- One column that is not there, and nothing of the batch runs.
      | missing => (session, missing.map (fun column => .statement (.invalidColumn column)))
  | .dropTableIfExists table, session =>
      match session.tables table with
      | none => (session, [])
      | some _ => (session.drop table, [])
  | .createTable table columns nodup, session =>
      match session.tables table with
      | none => (session.store table (.empty columns nodup), [])
      | some _ => (session, [.tableExists table])
  | .setOption _, session => (session, [])
  | .unterminatedComment, session => (session, [.missingEndComment])

/-- The batches of a file share one connection; an error ends its batch and no other. -/
def runBatches (equals : ν → ν → Bool) :
    List (Batch ι ν) → Session ι ν → Session ι ν × List (BatchError ι)
  | [], session => (session, [])
  | batch :: batches, session =>
      let performed := batch.perform equals session
      let rest := runBatches equals batches performed.1
      (rest.1, performed.2 ++ rest.2)

def runFile (equals : ν → ν → Bool) (file : List (Batch ι ν)) (tables : Database ι ν) :
    Database ι ν × List (BatchError ι) :=
  let performed := runBatches equals file (Session.connect tables)
  (disconnect performed.1, performed.2)

section Runs

variable (equals : ν → ν → Bool) (script : List (Stmt ι ν)) (session : Session ι ν)

theorem batch_bound (bound : (Stmt.block script).unbound session.tables = []) :
    Batch.perform equals (.statements script) session =
      ((perform equals (.block script) session).session,
        (perform equals (.block script) session).errors.map .statement) := by
  simp only [Batch.perform, bound]

theorem batch_unbound (missing : (Stmt.block script).unbound session.tables ≠ []) :
    Batch.perform equals (.statements script) session =
      (session, ((Stmt.block script).unbound session.tables).map
        (fun column => .statement (.invalidColumn column))) := by
  rw [Batch.perform]
  split
  · rename_i bound
    exact absurd bound missing
  · rfl

theorem runFile_single (tables : Database ι ν) :
    runFile equals [.statements script] tables =
      (disconnect (Batch.perform equals (.statements script) (Session.connect tables)).1,
        (Batch.perform equals (.statements script) (Session.connect tables)).2) := by
  simp [runFile, runBatches]

theorem runFile_act (action : Action ι ν) (tables : Database ι ν)
    (bound : (Stmt.act action).unbound tables = []) :
    runFile equals [.statements [.act action]] tables =
      (disconnect (performAction equals action (Session.connect tables)).session,
        (performAction equals action (Session.connect tables)).errors.map .statement) := by
  have named : (Stmt.block [.act action]).unbound (Session.connect tables).tables = [] :=
    List.append_eq_nil_iff.mpr ⟨bound, rfl⟩
  rw [runFile_single, batch_bound equals _ _ named, perform_block_single]

end Runs

section Frames

variable (table : ι)

def Batch.Within : Batch ι ν → Prop
  | .statements script => ∀ stmt ∈ script, Sql.Within table stmt
  | .dropTableIfExists named | .createTable named _ _ => named = table
  | .setOption _ | .unterminatedComment => True

variable (session : Session ι ν) (base : Database ι ν) (equals : ν → ν → Bool)

theorem patch_drop :
    (session.patch table base).drop table = (session.drop table).patch table base := by
  simp [Session.patch, Session.drop, Database.patch]

theorem batch_patch (batch : Batch ι ν) (within : batch.Within table) :
    batch.perform equals (session.patch table base) =
      ((batch.perform equals session).1.patch table base, (batch.perform equals session).2) := by
  cases batch with
  | statements script =>
      have inside := within_block table script within
      simp only [Batch.perform, unbound_patch table base (.block script) inside session,
        perform_patch table base equals (.block script) inside session]
      split <;> rfl
  | dropTableIfExists named =>
      cases within
      simp only [Batch.perform, patch_found]
      split
      · rfl
      · rw [patch_drop]
  | createTable named columns nodup =>
      cases within
      simp only [Batch.perform, patch_found]
      split
      · rw [patch_store]
      · rfl
  | setOption name => rfl
  | unterminatedComment => rfl

theorem runBatches_patch (file : List (Batch ι ν)) (within : ∀ batch ∈ file, batch.Within table) :
    runBatches equals file (session.patch table base) =
      ((runBatches equals file session).1.patch table base,
        (runBatches equals file session).2) := by
  induction file generalizing session with
  | nil => rfl
  | cons batch file ih =>
      have head := batch_patch table session base equals batch (within batch List.mem_cons_self)
      have rest := ih (batch.perform equals session).1
        (fun next member => within next (List.mem_cons_of_mem _ member))
      simp only [runBatches, head, rest]

theorem runFile_patch (file : List (Batch ι ν)) (within : ∀ batch ∈ file, batch.Within table)
    (tables : Database ι ν) :
    runFile equals file (tables.patch table base) =
      ((runFile equals file tables).1.patch table base, (runFile equals file tables).2) := by
  have whole := runBatches_patch table (Session.connect tables) base equals file within
  rw [patch_connect] at whole
  simp only [runFile, whole, patch_disconnect]

theorem runFile_confined (file : List (Batch ι ν)) (within : ∀ batch ∈ file, batch.Within table) :
    Convergence.Confined table (fun tables => (runFile equals file tables).1) := by
  refine ⟨fun cell => (runFile equals file (fun _ => cell)).1 table, ?_⟩
  intro tables
  have same : Database.patch table (fun _ => tables table) tables = tables :=
    Function.update_eq_self table tables
  have patched := runFile_patch table tables equals file within (fun _ => tables table)
  rw [same] at patched
  exact congrArg Prod.fst patched

end Frames

end Sql
