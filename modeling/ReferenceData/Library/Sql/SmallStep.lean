import Mathlib.Logic.Relation
import ReferenceData.Library.Sql.Rules

namespace Sql

structure Machine (ι ν : Type) where
  todo : List (Stmt ι ν)
  session : Session ι ν

variable {ι ν : Type} [DecidableEq ι]

def stepHead (equals : ν → ν → Bool) :
    Stmt ι ν → Session ι ν → Option (List (Stmt ι ν) × Session ι ν)
  | .skip, session => some ([], session)
  | .seq first second, session => some ([first, second], session)
  | .ifColumn expected table column body, session =>
      if session.tables.hasColumn table column = expected then some ([body], session)
      else some ([], session)
  | .act action, session =>
      let performed := performAction equals action session
      if performed.goesOn then some ([], performed.session) else none

/-- A statement whose error ends the batch leaves the machine where it is. -/
def step (equals : ν → ν → Bool) : Machine ι ν → Option (Machine ι ν)
  | ⟨[], _⟩ => none
  | ⟨stmt :: rest, session⟩ =>
      (stepHead equals stmt session).map (fun stepped => ⟨stepped.1 ++ rest, stepped.2⟩)

def Reaches (equals : ν → ν → Bool) : Machine ι ν → Machine ι ν → Prop :=
  Relation.ReflTransGen (fun machine next => step equals machine = some next)

def advance (equals : ν → ν → Bool) : Nat → Machine ι ν → Machine ι ν
  | 0, machine => machine
  | count + 1, machine =>
      match step equals machine with
      | none => machine
      | some next => advance equals count next

/-- What the database is left with when the connection ends: an open transaction is undone. -/
def disconnect (session : Session ι ν) : Database ι ν :=
  match session.transaction with
  | none => session.tables
  | some opened => opened.saved

section Steps

variable (equals : ν → ν → Bool)

theorem reaches_advance (count : Nat) (machine : Machine ι ν) :
    Reaches equals machine (advance equals count machine) := by
  induction count generalizing machine with
  | zero => exact .refl
  | succ count ih =>
      rw [advance]
      split
      · exact .refl
      · rename_i next stepped
        exact .head stepped (ih next)

theorem step_cons (stmt : Stmt ι ν) (rest : List (Stmt ι ν)) (session : Session ι ν)
    (next : Machine ι ν) (stepped : step equals ⟨stmt :: rest, session⟩ = some next) :
    ∃ opening, stepHead equals stmt session = some (opening, next.session) ∧
      next.todo = opening ++ rest := by
  rcases Option.map_eq_some_iff.mp stepped with ⟨⟨opening, after⟩, headed, rfl⟩
  exact ⟨opening, headed, rfl⟩

theorem stepHead_act (action : Action ι ν) (session after : Session ι ν)
    (opening : List (Stmt ι ν)) (stepped : stepHead equals (.act action) session =
      some (opening, after)) :
    opening = [] ∧ (performAction equals action session).goesOn = true ∧
      after = (performAction equals action session).session := by
  simp only [stepHead] at stepped
  split at stepped
  · rename_i goes
    cases stepped
    exact ⟨rfl, goes, rfl⟩
  · cases stepped

theorem performAction_goesOn (action : Action ι ν) (session : Session ι ν)
    (ends : action.survivable = false) (goes : (performAction equals action session).goesOn = true) :
    exec equals action session = .ok (performAction equals action session).session := by
  cases executed : exec equals action session with
  | ok after => rw [performAction_ok equals action session after executed]
  | error problem =>
      simp only [performAction, executed, ends] at goes
      cases goes

theorem step_of_append (stmt : Stmt ι ν) (todo rest : List (Stmt ι ν)) (session : Session ι ν)
    (next : Machine ι ν) (stepped : step equals ⟨(stmt :: todo) ++ rest, session⟩ = some next) :
    ∃ inner, step equals ⟨stmt :: todo, session⟩ = some inner ∧
      next = ⟨inner.todo ++ rest, inner.session⟩ := by
  rcases step_cons equals stmt (todo ++ rest) session next stepped with ⟨opening, headed, parts⟩
  refine ⟨⟨opening ++ todo, next.session⟩, ?_, ?_⟩
  · rw [step, headed]
    rfl
  · rw [List.append_assoc, ← parts]

theorem reaches_split (front back : List (Stmt ι ν)) (session : Session ι ν) (machine : Machine ι ν)
    (reached : Reaches equals ⟨front ++ back, session⟩ machine) :
    (∃ todo, Reaches equals ⟨front, session⟩ ⟨todo, machine.session⟩ ∧
      machine.todo = todo ++ back) ∨
    (∃ after, Reaches equals ⟨front, session⟩ ⟨[], after⟩ ∧
      Reaches equals ⟨back, after⟩ machine) := by
  induction reached with
  | refl => exact Or.inl ⟨front, .refl, rfl⟩
  | @tail machine next _ stepped ih =>
      rcases ih with ⟨todo, within, parts⟩ | ⟨after, finished, beyond⟩
      · rcases machine with ⟨whole, current⟩
        simp only at parts within
        subst parts
        cases todo with
        | nil => exact Or.inr ⟨current, within, .single stepped⟩
        | cons stmt todo =>
            rcases step_of_append equals stmt todo back current next stepped with
              ⟨inner, innerStep, rfl⟩
            exact Or.inl ⟨inner.todo, within.tail innerStep, rfl⟩
      · exact Or.inr ⟨after, finished, beyond.tail stepped⟩

theorem reaches_stuck (machine next : Machine ι ν) (stuck : step equals machine = none)
    (reached : Reaches equals machine next) : next = machine := by
  induction reached with
  | refl => rfl
  | tail _ stepped ih =>
      rw [ih, stuck] at stepped
      cases stepped

theorem reaches_act (action : Action ι ν) (session : Session ι ν) (machine : Machine ι ν)
    (reached : Reaches equals ⟨[.act action], session⟩ machine) :
    machine = ⟨[.act action], session⟩ ∨
      ((performAction equals action session).goesOn = true ∧
        machine = ⟨[], (performAction equals action session).session⟩) := by
  rcases Relation.ReflTransGen.cases_head reached with same | ⟨next, stepped, beyond⟩
  · exact Or.inl same.symm
  · rcases step_cons equals (.act action) [] session next stepped with ⟨opening, headed, parts⟩
    rcases stepHead_act equals action session next.session opening headed with ⟨none, goes, after⟩
    have finished : next = ⟨[], next.session⟩ := by
      rcases next with ⟨todo, current⟩
      simp only [none, List.nil_append] at parts
      rw [parts]
    rw [finished] at beyond
    rw [← after]
    exact Or.inr ⟨goes, reaches_stuck equals _ _ rfl beyond⟩

theorem reaches_performed (stmt : Stmt ι ν) (session : Session ι ν) (rest : List (Stmt ι ν)) :
    ∃ todo, Reaches equals ⟨stmt :: rest, session⟩ ⟨todo, (perform equals stmt session).session⟩ ∧
      ((perform equals stmt session).goesOn = true → todo = rest) := by
  induction stmt generalizing session rest with
  | skip => exact ⟨rest, .single rfl, fun _ => rfl⟩
  | seq first second firstIH secondIH =>
      have opened : step equals ⟨.seq first second :: rest, session⟩ =
          some ⟨first :: second :: rest, session⟩ := rfl
      rcases firstIH session (second :: rest) with ⟨todo, beginning, finished⟩
      cases goes : (perform equals first session).goesOn with
      | false =>
          rw [perform, follow_finished _ goes]
          exact ⟨todo, .head opened beginning, fun goesOn => by simp [goes] at goesOn⟩
      | true =>
          rcases secondIH (perform equals first session).session rest with ⟨left, beyond, ends⟩
          rw [finished goes] at beginning
          rw [perform, Performed.follow, if_pos goes]
          exact ⟨left, .head opened (beginning.trans beyond), ends⟩
  | ifColumn expected table column body ih =>
      rw [perform]
      split
      · rename_i guard
        have opened : step equals ⟨.ifColumn expected table column body :: rest, session⟩ =
            some ⟨body :: rest, session⟩ := by simp [step, stepHead, guard]
        rcases ih session rest with ⟨todo, beyond, ends⟩
        exact ⟨todo, .head opened beyond, ends⟩
      · rename_i guard
        exact ⟨rest, .single (by simp [step, stepHead, guard]), fun _ => rfl⟩
  | act action =>
      rw [perform]
      cases executed : exec equals action session with
      | ok after =>
          have performed := performAction_ok equals action session after executed
          rw [performed]
          exact ⟨rest, .single (by simp [step, stepHead, performed]), fun _ => rfl⟩
      | error problem =>
          simp only [performAction, executed]
          by_cases goes : action.survivable = true
          · refine ⟨rest, .single ?_, fun _ => rfl⟩
            simp [step, stepHead, performAction, executed, goes]
          · exact ⟨_, .refl, fun goesOn => absurd goesOn goes⟩

theorem reaches_performed_block (script : List (Stmt ι ν)) (session : Session ι ν) :
    ∃ todo, Reaches equals ⟨script, session⟩
      ⟨todo, (perform equals (.block script) session).session⟩ := by
  induction script generalizing session with
  | nil => exact ⟨[], .refl⟩
  | cons stmt script ih =>
      rcases reaches_performed equals stmt session script with ⟨todo, beginning, finished⟩
      rw [perform_block_cons]
      cases goes : (perform equals stmt session).goesOn with
      | false =>
          rw [follow_finished _ goes]
          exact ⟨todo, beginning⟩
      | true =>
          rcases ih (perform equals stmt session).session with ⟨left, beyond⟩
          rw [finished goes] at beginning
          rw [Performed.follow, if_pos goes]
          exact ⟨left, beginning.trans beyond⟩

end Steps

section Transactions

variable (equals : ν → ν → Bool)

theorem stepHead_transaction (stmt : Stmt ι ν) (free : TransactionFree stmt)
    (session after : Session ι ν) (opening : List (Stmt ι ν))
    (stepped : stepHead equals stmt session = some (opening, after)) :
    after.transaction = session.transaction ∧ ∀ part ∈ opening, TransactionFree part := by
  cases stmt with
  | skip =>
      cases stepped
      exact ⟨rfl, List.forall_mem_nil _⟩
  | seq first second =>
      cases stepped
      refine ⟨rfl, ?_⟩
      intro part member
      simp only [List.mem_cons, List.not_mem_nil, or_false] at member
      rcases member with rfl | rfl
      · exact free.1
      · exact free.2
  | ifColumn expected table column body =>
      rw [stepHead] at stepped
      split at stepped
      · cases stepped
        exact ⟨rfl, List.forall_mem_singleton.mpr free⟩
      · cases stepped
        exact ⟨rfl, List.forall_mem_nil _⟩
  | act action =>
      rcases stepHead_act equals action session after opening stepped with ⟨rfl, _, rfl⟩
      exact ⟨performAction_transaction equals action free session, List.forall_mem_nil _⟩

theorem reaches_transaction (body : List (Stmt ι ν)) (free : ∀ stmt ∈ body, TransactionFree stmt)
    (session : Session ι ν) (machine : Machine ι ν)
    (reached : Reaches equals ⟨body, session⟩ machine) :
    machine.session.transaction = session.transaction ∧
      ∀ stmt ∈ machine.todo, TransactionFree stmt := by
  induction reached with
  | refl => exact ⟨rfl, free⟩
  | @tail machine next _ stepped ih =>
      rcases machine with ⟨todo, current⟩
      cases todo with
      | nil => cases stepped
      | cons stmt rest =>
          rcases step_cons equals stmt rest current next stepped with ⟨opening, headed, parts⟩
          rcases stepHead_transaction equals stmt (ih.2 stmt List.mem_cons_self) current _ opening
            headed with ⟨kept, openingFree⟩
          refine ⟨kept.trans ih.1, ?_⟩
          intro part member
          rw [parts] at member
          rcases List.mem_append.mp member with inside | after
          · exact openingFree part inside
          · exact ih.2 part (List.mem_cons_of_mem _ after)

/-- A rolled back transaction can be interrupted anywhere without leaving a trace, and leaves
none at its end. -/
theorem reaches_rolledBack (body : List (Stmt ι ν)) (free : ∀ stmt ∈ body, TransactionFree stmt)
    (session : Session ι ν) (closed : session.transaction = none) (machine : Machine ι ν)
    (reached : Reaches equals ⟨rolledBack body, session⟩ machine) :
    disconnect machine.session = session.tables ∧
      (machine.todo = [] → machine.session.transaction = none) := by
  have begun := performAction_ok equals .beginTran session (execBegin session) rfl
  have opening := execBegin_closed session closed
  have inside : ∀ current : Session ι ν, current.transaction = some ⟨session.tables, 0⟩ →
      disconnect current = session.tables := by
    intro current kept
    rw [disconnect, kept]
  rcases reaches_split equals [.act .beginTran] (body ++ [.act .rollbackTran]) session _ reached with
    ⟨todo, beginning, more⟩ | ⟨opened, began, within⟩
  · refine ⟨?_, fun done => by simp [more] at done⟩
    rcases reaches_act equals .beginTran session _ beginning with same | ⟨_, same⟩
    · rw [(Machine.mk.inj same).2, disconnect, closed]
    · rw [begun] at same
      exact inside _ ((congrArg Session.transaction (Machine.mk.inj same).2).trans opening)
  · have openedIs : opened = execBegin session := by
      rcases reaches_act equals .beginTran session _ began with same | ⟨_, same⟩
      · cases same
      · rw [begun] at same
        exact (Machine.mk.inj same).2
    subst openedIs
    rcases reaches_split equals body [.act .rollbackTran] _ _ within with
      ⟨todo, running, more⟩ | ⟨middle, done, ending⟩
    · have kept := (reaches_transaction equals body free _ _ running).1.trans opening
      exact ⟨inside _ kept, fun done => by simp [more] at done⟩
    · have kept : middle.transaction = some ⟨session.tables, 0⟩ :=
        (reaches_transaction equals body free _ _ done).1.trans opening
      have rolled : performAction equals .rollbackTran middle =
          ⟨{ middle with tables := session.tables, transaction := none }, [], true⟩ := by
        apply performAction_ok
        simp [exec, execRollback, kept]
      rcases reaches_act equals .rollbackTran middle _ ending with rfl | ⟨_, rfl⟩
      · exact ⟨inside _ kept, fun finished => by cases finished⟩
      · rw [rolled]
        exact ⟨rfl, fun _ => rfl⟩

end Transactions

end Sql
