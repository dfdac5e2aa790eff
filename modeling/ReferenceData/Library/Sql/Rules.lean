import ReferenceData.Library.Sql.Script

namespace Sql

variable {ι ν : Type} [DecidableEq ι]

section Inversion

variable (session after : Session ι ν) (table : ι)

theorem execRename_ok (old new : ι) (ran : execRename session table old new = .ok after) :
    ∃ stored, ∃ fresh : new ∉ stored.columns, session.tables table = some stored ∧
      old ∈ stored.columns ∧ after = session.store table (stored.renameColumn old new fresh) := by
  unfold execRename at ran
  split at ran
  · cases ran
  · rename_i stored found
    split at ran
    · rename_i fresh
      split at ran
      · rename_i present
        cases ran
        exact ⟨stored, fresh, found, present, rfl⟩
      · cases ran
    · cases ran

theorem execRename_of (old new : ι) (stored : Table ι ν) (found : session.tables table = some stored)
    (present : old ∈ stored.columns) (fresh : new ∉ stored.columns) :
    execRename session table old new =
      .ok (session.store table (stored.renameColumn old new fresh)) := by
  simp [execRename, found, present, fresh]

theorem execAdd_ok (column : ι) (nullable : Bool) (default : ν)
    (ran : execAdd session table column nullable default = .ok after) :
    ∃ stored, ∃ fresh : column ∉ stored.columns, session.tables table = some stored ∧
      after = session.store table (stored.addColumn column nullable default fresh) := by
  unfold execAdd at ran
  split at ran
  · cases ran
  · rename_i stored found
    split at ran
    · rename_i fresh
      cases ran
      exact ⟨stored, fresh, found, rfl⟩
    · cases ran

theorem execAdd_of (column : ι) (nullable : Bool) (default : ν) (stored : Table ι ν)
    (found : session.tables table = some stored) (fresh : column ∉ stored.columns) :
    execAdd session table column nullable default =
      .ok (session.store table (stored.addColumn column nullable default fresh)) := by
  simp [execAdd, found, fresh]

variable (equals : ν → ν → Bool) (assignments : List (ι × ν)) (whereColumn : ι) (whereValue : ν)

theorem execUpdate_ok
    (ran : execUpdate equals session table assignments whereColumn whereValue = .ok after) :
    ∃ stored, session.tables table = some stored ∧
      (∀ column ∈ whereColumn :: assignments.map Prod.fst, column ∈ stored.columns) ∧
      after = session.store table (stored.update equals assignments whereColumn whereValue) := by
  unfold execUpdate at ran
  split at ran
  · cases ran
  · rename_i stored found
    split at ran
    · cases ran
    · rename_i complete
      cases ran
      refine ⟨stored, found, ?_, rfl⟩
      intro column member
      simpa using List.find?_eq_none.mp complete column member

theorem execUpdate_of (stored : Table ι ν) (found : session.tables table = some stored)
    (complete : ∀ column ∈ whereColumn :: assignments.map Prod.fst, column ∈ stored.columns) :
    execUpdate equals session table assignments whereColumn whereValue =
      .ok (session.store table (stored.update equals assignments whereColumn whereValue)) := by
  have nothingMissing : (whereColumn :: assignments.map Prod.fst).find?
      (fun column => column ∉ stored.columns) = none := by
    apply List.find?_eq_none.mpr
    intro column member
    simpa using complete column member
  simp only [execUpdate, found, nothingMissing]

end Inversion

section Blocks

omit [DecidableEq ι] in
theorem follow_finished (first : Performed ι ν) (stopped : first.goesOn = false)
    (next : Session ι ν → Performed ι ν) : first.follow next = first := by
  simp [Performed.follow, stopped]

omit [DecidableEq ι] in
theorem follow_assoc (first : Performed ι ν) (next last : Session ι ν → Performed ι ν) :
    (first.follow next).follow last = first.follow (fun session => (next session).follow last) := by
  cases goes : first.goesOn with
  | false => simp only [follow_finished, goes]
  | true =>
      cases further : (next first.session).goesOn <;>
        simp [Performed.follow, goes, further]

omit [DecidableEq ι] in
theorem follow_skip (next : Session ι ν → Performed ι ν) (session : Session ι ν) :
    Performed.follow ⟨session, [], true⟩ next = next session := rfl

variable (equals : ν → ν → Bool)

theorem performAction_ok (action : Action ι ν) (session after : Session ι ν)
    (executed : exec equals action session = .ok after) :
    performAction equals action session = ⟨after, [], true⟩ := by
  rw [performAction, executed]

theorem perform_block_cons (stmt : Stmt ι ν) (stmts : List (Stmt ι ν)) (session : Session ι ν) :
    perform equals (.block (stmt :: stmts)) session =
      (perform equals stmt session).follow (perform equals (.block stmts)) := rfl

theorem perform_block_single (action : Action ι ν) (session : Session ι ν) :
    perform equals (.block [.act action]) session = performAction equals action session := by
  cases ran : performAction equals action session with
  | mk after errors goesOn =>
      cases goesOn with
      | true => simp [Stmt.block, perform, Performed.follow, ran]
      | false => simp [Stmt.block, perform, Performed.follow, ran]

theorem perform_block_append (front back : List (Stmt ι ν)) (session : Session ι ν) :
    perform equals (.block (front ++ back)) session =
      (perform equals (.block front) session).follow (perform equals (.block back)) := by
  induction front generalizing session with
  | nil => rfl
  | cons stmt front ih =>
      calc
        _ = (perform equals stmt session).follow (perform equals (.block (front ++ back))) := rfl
        _ = (perform equals stmt session).follow (fun middle =>
            (perform equals (.block front) middle).follow (perform equals (.block back))) := by
          congr 1
          funext middle
          exact ih middle
        _ = _ := (follow_assoc _ _ _).symm

theorem unbound_block (tables : Database ι ν) (stmts : List (Stmt ι ν)) :
    (Stmt.block stmts).unbound tables = stmts.flatMap (fun stmt => stmt.unbound tables) := by
  induction stmts with
  | nil => rfl
  | cons stmt stmts ih =>
      rw [List.flatMap_cons, ← ih]
      rfl

end Blocks

section Triples

variable (equals : ν → ν → Bool)

/-- Total correctness: from `pre` the statement reports `errors`, runs on and ends in `post`. -/
def Triple (pre : Session ι ν → Prop) (stmt : Stmt ι ν) (errors : List (Error ι))
    (post : Session ι ν → Prop) : Prop :=
  ∀ session, pre session → ∃ after, perform equals stmt session = ⟨after, errors, true⟩ ∧ post after

theorem triple_weaken (pre post post' : Session ι ν → Prop) (stmt : Stmt ι ν)
    (errors : List (Error ι)) (triple : Triple equals pre stmt errors post)
    (after : ∀ session, post session → post' session) : Triple equals pre stmt errors post' := by
  intro session holds
  rcases triple session holds with ⟨final, ran, result⟩
  exact ⟨final, ran, after final result⟩

theorem triple_block_cons (pre middle post : Session ι ν → Prop) (stmt : Stmt ι ν)
    (stmts : List (Stmt ι ν)) (first rest : List (Error ι))
    (front : Triple equals pre stmt first middle)
    (back : Triple equals middle (.block stmts) rest post) :
    Triple equals pre (.block (stmt :: stmts)) (first ++ rest) post := by
  intro session holds
  rcases front session holds with ⟨halfway, ranFirst, reached⟩
  rcases back halfway reached with ⟨final, ranRest, result⟩
  refine ⟨final, ?_, result⟩
  rw [perform_block_cons, ranFirst]
  simp [Performed.follow, ranRest]

theorem triple_block_nil (pre : Session ι ν → Prop) : Triple equals pre (.block []) [] pre :=
  fun session holds => ⟨session, rfl, holds⟩

theorem triple_ifColumn (pre post : Session ι ν → Prop) (expected : Bool) (table column : ι)
    (body : Stmt ι ν) (errors : List (Error ι))
    (taken : Triple equals
      (fun session => pre session ∧ session.tables.hasColumn table column = expected) body errors post)
    (passed : ∀ session, pre session → session.tables.hasColumn table column ≠ expected →
      errors = [] ∧ post session) :
    Triple equals pre (.ifColumn expected table column body) errors post := by
  intro session holds
  by_cases guard : session.tables.hasColumn table column = expected
  · rcases taken session ⟨holds, guard⟩ with ⟨final, ran, result⟩
    exact ⟨final, by rw [perform, if_pos guard, ran], result⟩
  · rcases passed session holds guard with ⟨rfl, stays⟩
    exact ⟨session, by rw [perform, if_neg guard], stays⟩

theorem triple_selectAll (pre : Session ι ν → Prop) (table : ι)
    (present : ∀ session, pre session → ∃ stored, session.tables table = some stored)
    (ignores : ∀ session item, pre session → pre (session.emit item)) :
    Triple equals pre (.act (.selectAll table)) [] pre := by
  intro session holds
  rcases present session holds with ⟨stored, found⟩
  exact ⟨session.emit (.resultSet stored), by simp [perform, performAction, exec, found],
    ignores session _ holds⟩

end Triples

section Transactions

variable (equals : ν → ν → Bool)

def Action.TransactionFree : Action ι ν → Prop
  | .beginTran | .commitTran | .rollbackTran => False
  | _ => True

def TransactionFree : Stmt ι ν → Prop
  | .skip => True
  | .seq first second => TransactionFree first ∧ TransactionFree second
  | .ifColumn _ _ _ body => TransactionFree body
  | .act action => action.TransactionFree

omit [DecidableEq ι] in
theorem transactionFree_block (stmts : List (Stmt ι ν))
    (free : ∀ stmt ∈ stmts, TransactionFree stmt) : TransactionFree (.block stmts) := by
  induction stmts with
  | nil => trivial
  | cons stmt stmts ih =>
      exact ⟨free stmt List.mem_cons_self,
        ih (fun next member => free next (List.mem_cons_of_mem _ member))⟩

theorem exec_transaction (action : Action ι ν) (free : action.TransactionFree)
    (session after : Session ι ν) (ran : exec equals action session = .ok after) :
    after.transaction = session.transaction := by
  cases action with
  | beginTran => exact free.elim
  | commitTran => exact free.elim
  | rollbackTran => exact free.elim
  | print text => cases ran; rfl
  | selectAll table =>
      rw [exec] at ran
      split at ran <;> cases ran
      rfl
  | renameColumn table old new =>
      rcases execRename_ok session after table old new ran with ⟨stored, fresh, _, _, rfl⟩
      rfl
  | addColumn table column nullable default =>
      rcases execAdd_ok session after table column nullable default ran with ⟨stored, fresh, _, rfl⟩
      rfl
  | update table assignments whereColumn whereValue =>
      rcases execUpdate_ok session after table equals assignments whereColumn whereValue ran with
        ⟨stored, _, _, rfl⟩
      rfl

theorem performAction_transaction (action : Action ι ν) (free : action.TransactionFree)
    (session : Session ι ν) :
    (performAction equals action session).session.transaction = session.transaction := by
  cases executed : exec equals action session with
  | error problem => simp only [performAction, executed]
  | ok after =>
      rw [performAction_ok equals action session after executed]
      exact exec_transaction equals action free session after executed

theorem perform_transaction (stmt : Stmt ι ν) (free : TransactionFree stmt)
    (session : Session ι ν) :
    (perform equals stmt session).session.transaction = session.transaction := by
  induction stmt generalizing session with
  | skip => rfl
  | seq first second firstIH secondIH =>
      rw [perform, Performed.follow]
      split
      · exact (secondIH free.2 _).trans (firstIH free.1 session)
      · exact firstIH free.1 session
  | ifColumn expected table column body ih =>
      rw [perform]
      split
      · exact ih free session
      · rfl
  | act action => exact performAction_transaction equals action free session

omit [DecidableEq ι] in
theorem execBegin_tables (session : Session ι ν) : (execBegin session).tables = session.tables := by
  unfold execBegin
  split <;> rfl

omit [DecidableEq ι] in
theorem execBegin_closed (session : Session ι ν) (closed : session.transaction = none) :
    (execBegin session).transaction = some ⟨session.tables, 0⟩ := by
  simp [execBegin, closed]

/-- `BEGIN TRAN; body; ROLLBACK` -/
def rolledBack (body : List (Stmt ι ν)) : List (Stmt ι ν) :=
  .act .beginTran :: body ++ [.act .rollbackTran]

def committed (body : List (Stmt ι ν)) : List (Stmt ι ν) :=
  .act .beginTran :: body ++ [.act .commitTran]

variable (body : List (Stmt ι ν)) (free : ∀ stmt ∈ body, TransactionFree stmt)
  (errors : List (Error ι))

include free

theorem perform_transacted (ending : Action ι ν) (session middle after : Session ι ν)
    (ran : perform equals (.block body) (execBegin session) = ⟨middle, errors, true⟩)
    (closed : session.transaction = none)
    (ends : middle.transaction = some ⟨session.tables, 0⟩ →
      exec equals ending middle = .ok after) :
    perform equals (.block (.act .beginTran :: body ++ [.act ending])) session =
      ⟨after, errors, true⟩ := by
  have kept := perform_transaction equals (.block body) (transactionFree_block body free)
    (execBegin session)
  rw [ran] at kept
  have ended := ends (kept.trans (execBegin_closed session closed))
  calc
    _ = (perform equals (.block (body ++ [.act ending])) (execBegin session)) :=
      follow_skip _ (execBegin session)
    _ = (perform equals (.block body) (execBegin session)).follow
        (perform equals (.block [.act ending])) := perform_block_append equals body _ _
    _ = ⟨after, errors, true⟩ := by
      rw [ran]
      simp [Performed.follow, Stmt.block, perform, performAction_ok equals ending middle after ended]

theorem triple_rolledBack (tables : Database ι ν)
    (runs : Triple equals (fun session => session.tables = tables) (.block body) errors
      (fun _ => True)) :
    Triple equals (fun session => session.tables = tables ∧ session.transaction = none)
      (.block (rolledBack body)) errors
      (fun session => session.tables = tables ∧ session.transaction = none) := by
  intro session start
  rcases start with ⟨stands, closed⟩
  have begun : (execBegin session).tables = tables := by rw [execBegin_tables, stands]
  rcases runs (execBegin session) begun with ⟨middle, ranBody, _⟩
  have whole := perform_transacted equals body free errors .rollbackTran session middle
    { middle with tables := session.tables, transaction := none } ranBody closed
    (fun opened => by simp [exec, execRollback, opened])
  exact ⟨_, whole, stands, rfl⟩

theorem triple_committed (pre post : Database ι ν → Prop)
    (runs : Triple equals (fun session => pre session.tables) (.block body) errors
      (fun session => post session.tables)) :
    Triple equals (fun session => pre session.tables ∧ session.transaction = none)
      (.block (committed body)) errors
      (fun session => post session.tables ∧ session.transaction = none) := by
  intro session start
  rcases start with ⟨holds, closed⟩
  have begun : pre (execBegin session).tables := by rwa [execBegin_tables]
  rcases runs (execBegin session) begun with ⟨middle, ranBody, reached⟩
  have whole := perform_transacted equals body free errors .commitTran session middle
    { middle with transaction := none } ranBody closed
    (fun opened => by simp [exec, execCommit, opened])
  exact ⟨_, whole, reached, rfl⟩

end Transactions

theorem select_ok_iff (tables : Database ι ν) (table : ι) (columns : List ι) :
    (∃ rows, select tables table columns = .ok rows) ↔
      ∃ stored, tables table = some stored ∧ ∀ column ∈ columns, column ∈ stored.columns := by
  cases found : tables table with
  | none => simp [select, found]
  | some stored =>
      cases bound : columns.find? (fun column => column ∉ stored.columns) with
      | none =>
          have complete := List.find?_eq_none.mp bound
          simp only [select, found, bound]
          constructor
          · intro _
            exact ⟨stored, rfl, fun column member => by simpa using complete column member⟩
          · intro _
            exact ⟨_, rfl⟩
      | some missing =>
          have absent : missing ∉ stored.columns := by simpa using List.find?_some bound
          have named := List.mem_of_find?_eq_some bound
          simp only [select, found, bound]
          constructor
          · intro served
            rcases served with ⟨rows, returned⟩
            cases returned
          · intro complete
            rcases complete with ⟨other, same, present⟩
            cases same
            exact absurd (present missing named) absent

end Sql
