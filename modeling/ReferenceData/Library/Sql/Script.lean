import Mathlib.Logic.Function.Basic
import ReferenceData.Library.Sql.Table

namespace Sql

inductive Error (ι : Type) where
  | invalidObject (table : ι)
  | invalidColumn (column : ι)
  | columnInUse (column : ι)
  | noTransaction
  deriving DecidableEq, Repr

inductive Action (ι ν : Type) where
  | beginTran
  | commitTran
  | rollbackTran
  | print (text : String)
  | selectAll (table : ι)
  | renameColumn (table old new : ι)
  | addColumn (table column : ι) (nullable : Bool) (default : ν)
  | update (table : ι) (assignments : List (ι × ν)) (whereColumn : ι) (whereValue : ν)

inductive Stmt (ι ν : Type) where
  | skip
  | seq (first second : Stmt ι ν)
  | ifColumn (expected : Bool) (table column : ι) (body : Stmt ι ν)
  | act (action : Action ι ν)

def Stmt.block {ι ν : Type} (stmts : List (Stmt ι ν)) : Stmt ι ν :=
  stmts.foldr .seq .skip

abbrev Database (ι ν : Type) := ι → Option (Table ι ν)

/-- The state a rollback returns to; only the outermost BEGIN takes one. -/
structure Transaction (ι ν : Type) where
  saved : Database ι ν
  nested : Nat

inductive Output (ι ν : Type) where
  | message (text : String)
  | resultSet (table : Table ι ν)

structure Session (ι ν : Type) where
  tables : Database ι ν
  transaction : Option (Transaction ι ν)
  output : List (Output ι ν)

variable {ι ν : Type} [DecidableEq ι]

def Database.hasColumn (tables : Database ι ν) (table column : ι) : Bool :=
  match tables table with
  | none => false
  | some stored => decide (column ∈ stored.columns)

def Session.connect (tables : Database ι ν) : Session ι ν := ⟨tables, none, []⟩

def Session.store (session : Session ι ν) (name : ι) (table : Table ι ν) : Session ι ν :=
  { session with tables := Function.update session.tables name (some table) }

def Session.emit (session : Session ι ν) (item : Output ι ν) : Session ι ν :=
  { session with output := session.output ++ [item] }

def execBegin (session : Session ι ν) : Session ι ν :=
  match session.transaction with
  | none => { session with transaction := some ⟨session.tables, 0⟩ }
  | some opened => { session with transaction := some ⟨opened.saved, opened.nested + 1⟩ }

def execCommit (session : Session ι ν) : Except (Error ι) (Session ι ν) :=
  match session.transaction with
  | none => .error .noTransaction
  | some ⟨_, 0⟩ => .ok { session with transaction := none }
  | some ⟨saved, nested + 1⟩ => .ok { session with transaction := some ⟨saved, nested⟩ }

/-- ROLLBACK undoes data and schema changes alike, whatever the nesting. -/
def execRollback (session : Session ι ν) : Except (Error ι) (Session ι ν) :=
  match session.transaction with
  | none => .error .noTransaction
  | some opened => .ok { session with tables := opened.saved, transaction := none }

def execRename (session : Session ι ν) (table old new : ι) : Except (Error ι) (Session ι ν) :=
  match session.tables table with
  | none => .error (.invalidObject table)
  | some stored =>
      if fresh : new ∉ stored.columns then
        if old ∈ stored.columns then .ok (session.store table (stored.renameColumn old new fresh))
        else .error (.invalidColumn old)
      else .error (.columnInUse new)

def execAdd (session : Session ι ν) (table column : ι) (nullable : Bool) (default : ν) :
    Except (Error ι) (Session ι ν) :=
  match session.tables table with
  | none => .error (.invalidObject table)
  | some stored =>
      if fresh : column ∉ stored.columns then
        .ok (session.store table (stored.addColumn column nullable default fresh))
      else .error (.columnInUse column)

def execUpdate (equals : ν → ν → Bool) (session : Session ι ν) (table : ι)
    (assignments : List (ι × ν)) (whereColumn : ι) (whereValue : ν) :
    Except (Error ι) (Session ι ν) :=
  match session.tables table with
  | none => .error (.invalidObject table)
  | some stored =>
      match (whereColumn :: assignments.map Prod.fst).find? (fun column => column ∉ stored.columns) with
      | some missing => .error (.invalidColumn missing)
      | none => .ok (session.store table (stored.update equals assignments whereColumn whereValue))

def exec (equals : ν → ν → Bool) : Action ι ν → Session ι ν → Except (Error ι) (Session ι ν)
  | .beginTran, session => .ok (execBegin session)
  | .commitTran, session => execCommit session
  | .rollbackTran, session => execRollback session
  | .print text, session => .ok (session.emit (.message text))
  | .selectAll table, session =>
      match session.tables table with
      | none => .error (.invalidObject table)
      | some stored => .ok (session.emit (.resultSet stored))
  | .renameColumn table old new, session => execRename session table old new
  | .addColumn table column nullable default, session =>
      execAdd session table column nullable default
  | .update table assignments whereColumn whereValue, session =>
      execUpdate equals session table assignments whereColumn whereValue

structure Performed (ι ν : Type) where
  session : Session ι ν
  errors : List (Error ι)
  goesOn : Bool

def Performed.follow (first : Performed ι ν) (next : Session ι ν → Performed ι ν) :
    Performed ι ν :=
  if first.goesOn then
    ⟨(next first.session).session, first.errors ++ (next first.session).errors,
      (next first.session).goesOn⟩
  else first

def Action.survivable : Action ι ν → Bool
  -- sp_rename is a procedure: its error is reported, and the caller runs on. So does a batch
  -- which finds no transaction to end. Every other error ends the batch.
  | .renameColumn .. | .commitTran | .rollbackTran => true
  | _ => false

def performAction (equals : ν → ν → Bool) (action : Action ι ν) (session : Session ι ν) :
    Performed ι ν :=
  match exec equals action session with
  | .ok after => ⟨after, [], true⟩
  | .error problem => ⟨session, [problem], action.survivable⟩

def perform (equals : ν → ν → Bool) : Stmt ι ν → Session ι ν → Performed ι ν
  | .skip, session => ⟨session, [], true⟩
  | .seq first second, session => (perform equals first session).follow (perform equals second)
  | .ifColumn expected table column body, session =>
      if session.tables.hasColumn table column = expected then perform equals body session
      else ⟨session, [], true⟩
  | .act action, session => performAction equals action session

/-- The columns a batch names in vain. They are looked up before its first statement runs; where
the table itself is missing, that waits until the statement runs. -/
def Stmt.unbound (tables : Database ι ν) : Stmt ι ν → List ι
  | .skip => []
  | .seq first second => first.unbound tables ++ second.unbound tables
  | .ifColumn _ _ _ body => body.unbound tables
  | .act (.update table assignments whereColumn _) =>
      match tables table with
      | none => []
      | some stored =>
          (whereColumn :: assignments.map Prod.fst).filter (fun column => column ∉ stored.columns)
  | .act _ => []

def select (tables : Database ι ν) (table : ι) (columns : List ι) :
    Except (Error ι) (List (Row ν)) :=
  match tables table with
  | none => .error (.invalidObject table)
  | some stored =>
      match columns.find? (fun column => column ∉ stored.columns) with
      | some missing => .error (.invalidColumn missing)
      | none => .ok (stored.rows.map (fun row =>
          columns.map (fun column => (cellAt stored.columns row column).join)))

end Sql
