import ReferenceData.Library.Sql.Batch

namespace Sql

variable {ι ν : Type} [DecidableEq ι] (equals : ν → ν → Bool)

/-- Where a connection can stand when it ends: before a batch, in the middle of one, or
beyond it. -/
inductive Stopped : List (Batch ι ν) → Session ι ν → Session ι ν → Prop
  | before (file : List (Batch ι ν)) (session : Session ι ν) : Stopped file session session
  | within (script : List (Stmt ι ν)) (file : List (Batch ι ν)) (session : Session ι ν)
      (machine : Machine ι ν) (bound : (Stmt.block script).unbound session.tables = [])
      (reached : Reaches equals ⟨script, session⟩ machine) :
      Stopped (.statements script :: file) session machine.session
  | beyond (batch : Batch ι ν) (file : List (Batch ι ν)) (session final : Session ι ν)
      (rest : Stopped file (batch.perform equals session).1 final) :
      Stopped (batch :: file) session final

def InterruptedFile (file : List (Batch ι ν)) (tables tablesAfter : Database ι ν) : Prop :=
  ∃ session, Stopped equals file (Session.connect tables) session ∧
    tablesAfter = disconnect session

theorem stopped_runBatches (file : List (Batch ι ν)) (session : Session ι ν) :
    Stopped equals file session (runBatches equals file session).1 := by
  induction file generalizing session with
  | nil => exact .before [] session
  | cons batch batches ih => exact .beyond batch batches session _ (ih _)

theorem runFile_interrupted (file : List (Batch ι ν)) (tables : Database ι ν) :
    InterruptedFile equals file tables (runFile equals file tables).1 :=
  ⟨_, stopped_runBatches equals file (Session.connect tables), rfl⟩

section Single

variable (script : List (Stmt ι ν)) (tables : Database ι ν)

theorem interruptedFile_advance (count : Nat)
    (bound : (Stmt.block script).unbound tables = []) :
    InterruptedFile equals [.statements script] tables
      (disconnect (advance equals count ⟨script, Session.connect tables⟩).session) :=
  ⟨_, .within script [] _ _ bound (reaches_advance equals count _), rfl⟩

/-- Of a file of one batch, either nothing was done or its machine had come somewhere. -/
theorem interruptedFile_single (tablesAfter : Database ι ν)
    (stopped : InterruptedFile equals [.statements script] tables tablesAfter) :
    tablesAfter = tables ∨ ((Stmt.block script).unbound tables = [] ∧
      ∃ machine, Reaches equals ⟨script, Session.connect tables⟩ machine ∧
        tablesAfter = disconnect machine.session) := by
  rcases stopped with ⟨session, stands, rfl⟩
  cases stands with
  | before => exact Or.inl rfl
  | within _ _ _ machine bound reached => exact Or.inr ⟨bound, machine, reached, rfl⟩
  | beyond _ _ _ _ rest =>
      cases rest
      by_cases bound : (Stmt.block script).unbound tables = []
      · rcases reaches_performed_block equals script (Session.connect tables) with ⟨todo, reached⟩
        refine Or.inr ⟨bound, _, reached, ?_⟩
        rw [batch_bound equals script (Session.connect tables) bound]
      · rw [batch_unbound equals script (Session.connect tables) bound]
        exact Or.inl rfl

/-- One statement has run or has not. -/
theorem interruptedFile_act (action : Action ι ν) (bound : (Stmt.act action).unbound tables = [])
    (tablesAfter : Database ι ν)
    (stopped : InterruptedFile equals [.statements [.act action]] tables tablesAfter) :
    tablesAfter = tables ∨ tablesAfter = (runFile equals [.statements [.act action]] tables).1 := by
  rcases interruptedFile_single equals _ tables tablesAfter stopped with
    same | ⟨_, machine, reached, rfl⟩
  · exact Or.inl same
  · rw [runFile_act equals action tables bound]
    rcases reaches_act equals action _ machine reached with rfl | ⟨_, rfl⟩
    · exact Or.inl rfl
    · exact Or.inr rfl

end Single

section Frames

variable (table : ι) (base : Database ι ν)

theorem stopped_patch (file : List (Batch ι ν)) (within : ∀ batch ∈ file, batch.Within table)
    (session final : Session ι ν) (stopped : Stopped equals file session final) :
    Stopped equals file (session.patch table base) (final.patch table base) := by
  induction stopped with
  | before file session => exact .before file _
  | within script file session machine bound reached =>
      have named : ∀ stmt ∈ script, Within table stmt :=
        within (.statements script) List.mem_cons_self
      refine .within script file _ (machine.patch table base) ?_
        (reaches_patch table base equals ⟨script, session⟩ machine named reached).1
      rw [unbound_patch table base _ (within_block table script named) session, bound]
  | beyond batch file session final _ ih =>
      refine .beyond batch file _ _ ?_
      rw [batch_patch table session base equals batch (within batch List.mem_cons_self)]
      exact ih (fun next member => within next (List.mem_cons_of_mem _ member))

theorem stopped_fixed (file : List (Batch ι ν)) (within : ∀ batch ∈ file, batch.Within table)
    (session final : Session ι ν) (fixed : session.patch table base = session)
    (stopped : Stopped equals file session final) : final.patch table base = final := by
  induction stopped with
  | before file session => exact fixed
  | within script file session machine _ reached =>
      have named : ∀ stmt ∈ script, Within table stmt :=
        within (.statements script) List.mem_cons_self
      have same : (Machine.mk script session).patch table base = ⟨script, session⟩ := by
        rw [Machine.patch, fixed]
      exact congrArg Machine.session (reaches_fixed table base equals ⟨script, session⟩ machine named
        same reached)
  | beyond batch file session final _ ih =>
      apply ih (fun next member => within next (List.mem_cons_of_mem _ member))
      have moved := batch_patch table session base equals batch (within batch List.mem_cons_self)
      rw [fixed] at moved
      exact (congrArg Prod.fst moved).symm

end Frames

theorem interruptedFile_confined (table : ι) (file : List (Batch ι ν))
    (within : ∀ batch ∈ file, batch.Within table) :
    Convergence.ConfinedStop table (InterruptedFile equals file) := by
  intro tables tablesAfter stopped
  rcases stopped with ⟨session, stands, rfl⟩
  constructor
  · have fixed : (Session.connect tables).patch table tables = Session.connect tables := by
      rw [patch_connect, Database.patch, Function.update_eq_self]
    have same := stopped_fixed equals table tables file within _ _ fixed stands
    have left := patch_disconnect table session tables
    rw [same] at left
    exact left
  · intro other same
    refine ⟨session.patch table other, ?_, (patch_disconnect table session other).symm⟩
    have moved := stopped_patch equals table other file within _ _ stands
    rw [patch_connect, Database.patch, ← same, Function.update_eq_self] at moved
    exact moved

end Sql
