import ReferenceData.Library.Sql.KeyedUpdates
import ReferenceData.Library.Sql.SmallStep

namespace Sql

variable {ι ν : Type} [DecidableEq ι] (equals : ν → ν → Bool)

namespace UpdatePlan

section Rows

variable (columns : List ι) (keyColumn : ι)

theorem runOn_resume (updates : List (KeyedUpdate ι ν)) (row : Row ν)
    (present : keyColumn ∈ columns) (keeps : ∀ update ∈ updates, keyColumn ∉ update.assigned)
    (apart : Apart equals updates) (count : Nat) :
    runOn equals columns keyColumn (updates.take count) row = row ∨
      runOn equals columns keyColumn (updates.take count) row =
        runOn equals columns keyColumn updates row := by
  have inside : ∀ update ∈ updates.take count, update ∈ updates :=
    fun update member => List.mem_of_mem_take member
  have keepsFront := fun update member => keeps update (inside update member)
  have apartFront : Apart equals (updates.take count) :=
    fun value => (apart value).sublist (List.take_sublist count updates)
  rcases runOn_cases equals columns keyColumn (updates.take count) row present keepsFront apartFront
    with ⟨_, stays⟩ | ⟨update, member, selected, written⟩
  · exact Or.inl stays
  · right
    rw [written, runOn_selected equals columns keyColumn updates row present keeps apart update
      (inside update member) selected]

end Rows

section Plans

variable (plan : UpdatePlan ι ν)

def finish (columns : List ι) (row : Row ν) : Row ν :=
  runOn equals columns plan.keyColumn plan.updates row

def onFirst (count : Nat) (stored : Table ι ν) : Table ι ν :=
  stored.mapRows (runOn equals stored.columns plan.keyColumn (plan.updates.take count))
    (runOn_length equals stored.columns plan.keyColumn (plan.updates.take count))

structure Halfway (before reached : Table ι ν) : Prop where
  columns : reached.columns = before.columns
  rows : List.Forall₂ (fun row current => current = row ∨
    current = plan.finish equals before.columns row) before.rows reached.rows

theorem halfway_refl (before : Table ι ν) : plan.Halfway equals before before :=
  ⟨rfl, List.forall₂_same.mpr (fun _ _ => Or.inl rfl)⟩

theorem finish_idem (columns : List ι) (bound : plan.Bound columns)
    (apart : Apart equals plan.updates) (row : Row ν) (width : row.length = columns.length) :
    plan.finish equals columns (plan.finish equals columns row) = plan.finish equals columns row :=
  runOn_idem equals columns plan.keyColumn plan.updates row width bound.1 plan.keeps_key
    plan.assigns_once bound.2 apart

theorem halfway_onFirst (before reached : Table ι ν) (bound : plan.Bound before.columns)
    (apart : Apart equals plan.updates) (halfway : plan.Halfway equals before reached)
    (count : Nat) : plan.Halfway equals before (plan.onFirst equals count reached) := by
  refine ⟨halfway.columns, ?_⟩
  apply List.forall₂_map_right_iff.mpr
  rw [halfway.columns]
  apply ((List.forall₂_and_left _ _).mpr ⟨before.rows_width, halfway.rows⟩).imp
  intro row current related
  rcases related with ⟨width, moved⟩
  rcases runOn_resume equals before.columns plan.keyColumn plan.updates current bound.1
      plan.keeps_key apart count with stays | finished
  · rw [stays]
    exact moved
  · rw [finished]
    right
    rcases moved with rfl | rfl
    · rfl
    · exact plan.finish_idem equals before.columns bound apart row width

theorem onTable_halfway (before reached : Table ι ν) (bound : plan.Bound before.columns)
    (apart : Apart equals plan.updates) (halfway : plan.Halfway equals before reached) :
    plan.onTable equals reached = plan.onTable equals before := by
  ext1
  · exact halfway.columns
  · change reached.rows.map (plan.finish equals reached.columns) =
      before.rows.map (plan.finish equals before.columns)
    rw [halfway.columns, ← List.forall₂_eq_eq_eq, List.forall₂_map_left_iff,
      List.forall₂_map_right_iff]
    apply List.Forall₂.flip
    apply ((List.forall₂_and_left _ _).mpr ⟨before.rows_width, halfway.rows⟩).imp
    intro row current related
    rcases related with ⟨width, moved⟩
    rcases moved with rfl | rfl
    · rfl
    · exact plan.finish_idem equals before.columns bound apart row width

end Plans

section Machines

/-- The updates run one by one: the machine is always behind some number of them. -/
theorem reaches_updates (table keyColumn : ι) (updates : List (KeyedUpdate ι ν))
    (stored : Table ι ν) (session : Session ι ν) (found : session.tables table = some stored)
    (machine : Machine ι ν)
    (reached : Reaches equals ⟨updates.map (fun update =>
      .act (.update table update.assignments keyColumn update.key)), session⟩ machine) :
    ∃ count, machine.session.transaction = session.transaction ∧
      machine.session.tables = Function.update session.tables table (some (stored.mapRows
        (runOn equals stored.columns keyColumn (updates.take count))
        (runOn_length equals stored.columns keyColumn (updates.take count)))) := by
  induction updates generalizing stored session with
  | nil =>
      rw [reaches_stuck equals _ _ rfl reached]
      refine ⟨0, rfl, ?_⟩
      rw [List.take_zero, mapRows_nil, Function.update_eq_self_iff.mpr found.symm]
  | cons update updates ih =>
      rcases Relation.ReflTransGen.cases_head reached with same | ⟨next, stepped, beyond⟩
      · refine ⟨0, by rw [← same], ?_⟩
        rw [← same, List.take_zero, mapRows_nil, Function.update_eq_self_iff.mpr found.symm]
      · rcases step_cons equals _ _ _ _ stepped with ⟨opening, headed, parts⟩
        rcases stepHead_act equals _ session _ opening headed with ⟨rfl, goes, after⟩
        have executed := performAction_goesOn equals _ session rfl goes
        rcases execUpdate_ok session _ table equals update.assignments keyColumn update.key
          executed with ⟨present, foundToo, _, updated⟩
        rw [found] at foundToo
        cases foundToo
        rcases next with ⟨todo, current⟩
        simp only [List.nil_append] at parts after
        rw [updated] at after
        subst parts after
        have stands : (session.store table (stored.update equals update.assignments keyColumn
            update.key)).tables table =
            some (stored.update equals update.assignments keyColumn update.key) := by
          simp [Session.store]
        rcases ih _ _ stands beyond with ⟨count, kept, tables⟩
        refine ⟨count + 1, kept, ?_⟩
        rw [tables]
        simp only [Session.store, Function.update_idem]
        congr 2
        ext1
        · rfl
        · exact List.map_map

end Machines

end UpdatePlan

end Sql
