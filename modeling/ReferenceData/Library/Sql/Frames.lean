import ReferenceData.Library.Sql.SmallStep

namespace Sql

variable {ι ν : Type} [DecidableEq ι] (table : ι)

def Action.Within : Action ι ν → Prop
  | .selectAll named | .renameColumn named _ _ | .addColumn named _ _ _ | .update named _ _ _ =>
      named = table
  | .beginTran | .commitTran | .rollbackTran | .print _ => True

def Within : Stmt ι ν → Prop
  | .skip => True
  | .seq first second => Within first ∧ Within second
  | .ifColumn _ named _ body => named = table ∧ Within body
  | .act action => action.Within table

omit [DecidableEq ι] in
theorem within_block (stmts : List (Stmt ι ν)) (within : ∀ stmt ∈ stmts, Within table stmt) :
    Within table (.block stmts) := by
  induction stmts with
  | nil => trivial
  | cons stmt stmts ih =>
      exact ⟨within stmt List.mem_cons_self,
        ih (fun next member => within next (List.mem_cons_of_mem _ member))⟩

def Database.patch (tables base : Database ι ν) : Database ι ν :=
  Function.update base table (tables table)

def Session.patch (session : Session ι ν) (base : Database ι ν) : Session ι ν where
  tables := session.tables.patch table base
  transaction := session.transaction.map (fun opened =>
    ⟨opened.saved.patch table base, opened.nested⟩)
  output := session.output

def Performed.patch (performed : Performed ι ν) (base : Database ι ν) : Performed ι ν :=
  ⟨performed.session.patch table base, performed.errors, performed.goesOn⟩

def Machine.patch (machine : Machine ι ν) (base : Database ι ν) : Machine ι ν :=
  ⟨machine.todo, machine.session.patch table base⟩

section Sessions

variable (session : Session ι ν) (base : Database ι ν)

theorem patch_found : (session.patch table base).tables table = session.tables table :=
  Function.update_self _ _ _

theorem patch_connect (tables : Database ι ν) :
    (Session.connect tables).patch table base = Session.connect (tables.patch table base) := rfl

theorem patch_store (stored : Table ι ν) :
    (session.patch table base).store table stored = (session.store table stored).patch table base := by
  simp [Session.patch, Session.store, Database.patch]

theorem patch_hasColumn (column : ι) :
    (session.patch table base).tables.hasColumn table column =
      session.tables.hasColumn table column := by
  simp only [Database.hasColumn, patch_found]

theorem patch_disconnect :
    disconnect (session.patch table base) = (disconnect session).patch table base := by
  cases opened : session.transaction <;> simp [disconnect, Session.patch, opened]

end Sessions

section Actions

variable (session : Session ι ν) (base : Database ι ν)

theorem patch_begin :
    execBegin (session.patch table base) = (execBegin session).patch table base := by
  cases opened : session.transaction <;> simp [execBegin, Session.patch, opened]

theorem patch_commit : execCommit (session.patch table base) =
    (execCommit session).map (fun after => after.patch table base) := by
  rcases opened : session.transaction with _ | ⟨saved, nested⟩
  · simp [execCommit, Session.patch, opened, Except.map]
  · cases nested <;> simp [execCommit, Session.patch, opened, Except.map]

theorem patch_rollback : execRollback (session.patch table base) =
    (execRollback session).map (fun after => after.patch table base) := by
  cases opened : session.transaction <;>
    simp [execRollback, Session.patch, opened, Except.map]

theorem patch_rename (old new : ι) : execRename (session.patch table base) table old new =
    (execRename session table old new).map (fun after => after.patch table base) := by
  unfold execRename
  rw [patch_found]
  split
  · rfl
  · split
    · split
      · rw [patch_store]
        rfl
      · rfl
    · rfl

theorem patch_add (column : ι) (nullable : Bool) (default : ν) :
    execAdd (session.patch table base) table column nullable default =
      (execAdd session table column nullable default).map (fun after => after.patch table base) := by
  unfold execAdd
  rw [patch_found]
  split
  · rfl
  · split
    · rw [patch_store]
      rfl
    · rfl

variable (equals : ν → ν → Bool)

theorem patch_update (assignments : List (ι × ν)) (whereColumn : ι) (whereValue : ν) :
    execUpdate equals (session.patch table base) table assignments whereColumn whereValue =
      (execUpdate equals session table assignments whereColumn whereValue).map
        (fun after => after.patch table base) := by
  unfold execUpdate
  rw [patch_found]
  split
  · rfl
  · split
    · rfl
    · rw [patch_store]
      rfl

/-- An action does the same whatever the other tables hold, and leaves them as they are. -/
theorem exec_patch (action : Action ι ν) (within : action.Within table) :
    exec equals action (session.patch table base) =
      (exec equals action session).map (fun after => after.patch table base) := by
  cases action with
  | beginTran => exact congrArg Except.ok (patch_begin table session base)
  | commitTran => exact patch_commit table session base
  | rollbackTran => exact patch_rollback table session base
  | print text => rfl
  | selectAll named =>
      cases within
      rw [exec, exec, patch_found]
      split <;> rfl
  | renameColumn named old new =>
      cases within
      exact patch_rename table session base old new
  | addColumn named column nullable default =>
      cases within
      exact patch_add table session base column nullable default
  | update named assignments whereColumn whereValue =>
      cases within
      exact patch_update table session base equals assignments whereColumn whereValue

theorem performAction_patch (action : Action ι ν) (within : action.Within table) :
    performAction equals action (session.patch table base) =
      (performAction equals action session).patch table base := by
  rw [performAction, exec_patch table session base equals action within, performAction]
  cases exec equals action session <;> rfl

end Actions

section Statements

variable (base : Database ι ν) (equals : ν → ν → Bool)

theorem perform_patch (stmt : Stmt ι ν) (within : Within table stmt) (session : Session ι ν) :
    perform equals stmt (session.patch table base) =
      (perform equals stmt session).patch table base := by
  induction stmt generalizing session with
  | skip => rfl
  | seq first second firstIH secondIH =>
      rw [perform, perform, firstIH within.1 session]
      rcases perform equals first session with ⟨middle, errors, goesOn⟩
      cases goesOn with
      | false => rfl
      | true =>
          simp only [Performed.patch, Performed.follow, if_true, secondIH within.2 middle]
  | ifColumn expected named column body ih =>
      rcases within with ⟨rfl, inside⟩
      rw [perform, perform, patch_hasColumn, ih inside session]
      split <;> rfl
  | act action => exact performAction_patch table session base equals action within

theorem unbound_patch (stmt : Stmt ι ν) (within : Within table stmt) (session : Session ι ν) :
    stmt.unbound (session.patch table base).tables = stmt.unbound session.tables := by
  induction stmt with
  | skip => rfl
  | seq first second firstIH secondIH =>
      rw [Stmt.unbound, Stmt.unbound, firstIH within.1, secondIH within.2]
  | ifColumn expected named column body ih => exact ih within.2
  | act action =>
      cases action with
      | update named assignments whereColumn whereValue =>
          cases within
          simp only [Stmt.unbound, patch_found]
      | _ => rfl

theorem stepHead_patch (stmt : Stmt ι ν) (within : Within table stmt) (session : Session ι ν) :
    stepHead equals stmt (session.patch table base) =
      (stepHead equals stmt session).map (fun stepped =>
        (stepped.1, stepped.2.patch table base)) := by
  cases stmt with
  | skip => rfl
  | seq first second => rfl
  | ifColumn expected named column body =>
      rcases within with ⟨rfl, _⟩
      rw [stepHead, stepHead, patch_hasColumn]
      split <;> rfl
  | act action =>
      simp only [stepHead, performAction_patch table session base equals action within,
        Performed.patch]
      split <;> rfl

theorem stepHead_within (stmt : Stmt ι ν) (within : Within table stmt) (session after : Session ι ν)
    (opening : List (Stmt ι ν)) (stepped : stepHead equals stmt session = some (opening, after)) :
    ∀ part ∈ opening, Within table part := by
  cases stmt with
  | skip =>
      cases stepped
      exact List.forall_mem_nil _
  | seq first second =>
      cases stepped
      intro part member
      simp only [List.mem_cons, List.not_mem_nil, or_false] at member
      rcases member with rfl | rfl
      · exact within.1
      · exact within.2
  | ifColumn expected named column body =>
      rw [stepHead] at stepped
      split at stepped
      · cases stepped
        exact List.forall_mem_singleton.mpr within.2
      · cases stepped
        exact List.forall_mem_nil _
  | act action =>
      rw [(stepHead_act equals action session after opening stepped).1]
      exact List.forall_mem_nil _

end Statements

section Machines

variable (base : Database ι ν) (equals : ν → ν → Bool)

theorem step_patch (machine next : Machine ι ν) (within : ∀ stmt ∈ machine.todo, Within table stmt)
    (stepped : step equals machine = some next) :
    step equals (machine.patch table base) = some (next.patch table base) ∧
      ∀ stmt ∈ next.todo, Within table stmt := by
  rcases machine with ⟨todo, session⟩
  cases todo with
  | nil => cases stepped
  | cons stmt rest =>
      rcases step_cons equals stmt rest session next stepped with ⟨opening, headed, parts⟩
      have head := within stmt List.mem_cons_self
      constructor
      · rw [Machine.patch, step, stepHead_patch table base equals stmt head, headed]
        simp [Machine.patch, parts]
      · intro part member
        rw [parts] at member
        rcases List.mem_append.mp member with inside | after
        · exact stepHead_within table equals stmt head session _ opening headed part inside
        · exact within part (List.mem_cons_of_mem _ after)

theorem reaches_patch (machine next : Machine ι ν)
    (within : ∀ stmt ∈ machine.todo, Within table stmt) (reached : Reaches equals machine next) :
    Reaches equals (machine.patch table base) (next.patch table base) ∧
      ∀ stmt ∈ next.todo, Within table stmt := by
  induction reached with
  | refl => exact ⟨.refl, within⟩
  | tail _ stepped ih =>
      rcases step_patch table base equals _ _ ih.2 stepped with ⟨moved, inside⟩
      exact ⟨ih.1.tail moved, inside⟩

theorem reaches_fixed (machine next : Machine ι ν)
    (within : ∀ stmt ∈ machine.todo, Within table stmt)
    (fixed : machine.patch table base = machine) (reached : Reaches equals machine next) :
    next.patch table base = next := by
  induction reached with
  | refl => exact fixed
  | @tail middle next before stepped ih =>
      have inside := (reaches_patch table base equals machine middle within before).2
      have moved := (step_patch table base equals middle next inside stepped).1
      rw [ih, stepped] at moved
      exact (Option.some.inj moved).symm

end Machines

end Sql
