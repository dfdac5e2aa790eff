import ReferenceData.Library.Sql.Rules

namespace Sql

structure KeyedUpdate (ι ν : Type) where
  key : ν
  assignments : List (ι × ν)

def KeyedUpdate.assigned {ι ν : Type} (update : KeyedUpdate ι ν) : List ι :=
  update.assignments.map Prod.fst

/-- A chain of updates of one table, each selecting rows by one value of the same
column, which none of them writes. -/
structure UpdatePlan (ι ν : Type) where
  table : ι
  keyColumn : ι
  updates : List (KeyedUpdate ι ν)
  keeps_key : ∀ update ∈ updates, keyColumn ∉ update.assigned
  assigns_once : ∀ update ∈ updates, update.assigned.Nodup

variable {ι ν : Type} [DecidableEq ι] (equals : ν → ν → Bool)

namespace UpdatePlan

def script (plan : UpdatePlan ι ν) : List (Stmt ι ν) :=
  plan.updates.map (fun update =>
    .act (.update plan.table update.assignments plan.keyColumn update.key))

def selects (columns : List ι) (keyColumn : ι) (row : Row ν) (update : KeyedUpdate ι ν) : Bool :=
  matchesCell equals columns keyColumn update.key row

def step (columns : List ι) (keyColumn : ι) (row : Row ν) (update : KeyedUpdate ι ν) : Row ν :=
  Table.updateRow equals columns update.assignments keyColumn update.key row

def runOn (columns : List ι) (keyColumn : ι) (updates : List (KeyedUpdate ι ν)) (row : Row ν) :
    Row ν :=
  updates.foldl (step equals columns keyColumn) row

def Bound (plan : UpdatePlan ι ν) (columns : List ι) : Prop :=
  plan.keyColumn ∈ columns ∧ ∀ update ∈ plan.updates, ∀ column ∈ update.assigned, column ∈ columns

def Apart (updates : List (KeyedUpdate ι ν)) : Prop :=
  ∀ value, updates.Pairwise (fun first second =>
    ¬ (equals value first.key = true ∧ equals value second.key = true))

section Rows

variable (columns : List ι) (keyColumn : ι)

theorem selects_congr (first second : Row ν) (update : KeyedUpdate ι ν)
    (same : cellAt columns first keyColumn = cellAt columns second keyColumn) :
    selects equals columns keyColumn first update =
      selects equals columns keyColumn second update := by
  simp only [selects, matchesCell, same]

theorem runOn_length (updates : List (KeyedUpdate ι ν)) (row : Row ν) :
    (runOn equals columns keyColumn updates row).length = row.length := by
  induction updates generalizing row with
  | nil => rfl
  | cons update updates ih =>
      rw [runOn, List.foldl_cons, ← runOn, ih]
      exact Table.updateRow_length equals columns update.assignments keyColumn update.key row

theorem runOn_unselected (updates : List (KeyedUpdate ι ν)) (row : Row ν)
    (unselected : ∀ update ∈ updates, selects equals columns keyColumn row update = false) :
    runOn equals columns keyColumn updates row = row := by
  induction updates with
  | nil => rfl
  | cons update updates ih =>
      have stays : step equals columns keyColumn row update = row := by
        have missed := unselected update List.mem_cons_self
        simp only [selects] at missed
        simp [step, Table.updateRow, missed]
      rw [runOn, List.foldl_cons, stays, ← runOn]
      exact ih (fun next member => unselected next (List.mem_cons_of_mem _ member))

theorem runOn_selected (updates : List (KeyedUpdate ι ν)) (row : Row ν)
    (present : keyColumn ∈ columns) (keeps : ∀ update ∈ updates, keyColumn ∉ update.assigned)
    (apart : Apart equals updates) (update : KeyedUpdate ι ν) (member : update ∈ updates)
    (selected : selects equals columns keyColumn row update = true) :
    runOn equals columns keyColumn updates row = assign columns update.assignments row := by
  induction updates with
  | nil => cases member
  | cons head updates ih =>
      have keepsTail := fun next inside => keeps next (List.mem_cons_of_mem head inside)
      have apartTail : Apart equals updates := fun value => (apart value).of_cons
      -- The value under the key column settles which updates of the chain can fire.
      have exclusive : ∀ next ∈ updates, selects equals columns keyColumn row head = true →
          selects equals columns keyColumn row next = false := by
        intro next inside first
        unfold selects matchesCell at first ⊢
        split at first
        · rename_i value _
          have both := (List.pairwise_cons.mp (apart value)).1 next inside
          simpa [first] using both
        · cases first
      rw [runOn, List.foldl_cons, ← runOn]
      rcases List.mem_cons.mp member with rfl | inTail
      · have fired : step equals columns keyColumn row update =
            assign columns update.assignments row := by
          simp only [selects] at selected
          simp [step, Table.updateRow, selected]
        rw [fired]
        apply runOn_unselected
        intro next inside
        have sameKey := cellAt_assign_other columns update.assignments row keyColumn present
          (keeps update List.mem_cons_self)
        rw [selects_congr equals columns keyColumn _ row next sameKey]
        exact exclusive next inside selected
      · have skipped : step equals columns keyColumn row head = row := by
          have missed : selects equals columns keyColumn row head = false := by
            cases fires : selects equals columns keyColumn row head with
            | false => rfl
            | true => simpa [selected] using exclusive update inTail fires
          simp only [selects] at missed
          simp [step, Table.updateRow, missed]
        rw [skipped]
        exact ih keepsTail apartTail inTail

/-- Either no update selects the row and it stays, or one does and writes it. -/
theorem runOn_cases (updates : List (KeyedUpdate ι ν)) (row : Row ν)
    (present : keyColumn ∈ columns) (keeps : ∀ update ∈ updates, keyColumn ∉ update.assigned)
    (apart : Apart equals updates) :
    ((∀ update ∈ updates, selects equals columns keyColumn row update = false) ∧
      runOn equals columns keyColumn updates row = row) ∨
    (∃ update ∈ updates, selects equals columns keyColumn row update = true ∧
      runOn equals columns keyColumn updates row = assign columns update.assignments row) := by
  by_cases some : ∃ update ∈ updates, selects equals columns keyColumn row update = true
  · rcases some with ⟨update, member, selected⟩
    exact Or.inr ⟨update, member, selected,
      runOn_selected equals columns keyColumn updates row present keeps apart update member selected⟩
  · have unselected : ∀ update ∈ updates, selects equals columns keyColumn row update = false := by
      intro update member
      exact Bool.eq_false_iff.mpr (fun selected => some ⟨update, member, selected⟩)
    exact Or.inl ⟨unselected, runOn_unselected equals columns keyColumn updates row unselected⟩

theorem runOn_written (updates : List (KeyedUpdate ι ν)) (row : Row ν)
    (width : row.length = columns.length) (present : keyColumn ∈ columns)
    (keeps : ∀ update ∈ updates, keyColumn ∉ update.assigned) (apart : Apart equals updates)
    (update : KeyedUpdate ι ν) (member : update ∈ updates) (once : update.assigned.Nodup)
    (bound : ∀ column ∈ update.assigned, column ∈ columns)
    (selected : selects equals columns keyColumn row update = true) :
    ∀ assignment ∈ update.assignments,
      cellAt columns (runOn equals columns keyColumn updates row) assignment.1 =
        some (some assignment.2) := by
  rw [runOn_selected equals columns keyColumn updates row present keeps apart update member selected]
  apply cellAt_assign_self columns update.assignments row width once
  intro assignment assigned
  exact bound assignment.1 (List.mem_map_of_mem assigned)

theorem runOn_kept (updates : List (KeyedUpdate ι ν)) (row : Row ν)
    (present : keyColumn ∈ columns) (keeps : ∀ update ∈ updates, keyColumn ∉ update.assigned)
    (apart : Apart equals updates) (column : ι) (inside : column ∈ columns)
    (spared : ∀ update ∈ updates, selects equals columns keyColumn row update = true →
      column ∉ update.assigned) :
    cellAt columns (runOn equals columns keyColumn updates row) column =
      cellAt columns row column := by
  rcases runOn_cases equals columns keyColumn updates row present keeps apart with
    ⟨_, stays⟩ | ⟨update, member, selected, written⟩
  · rw [stays]
  · rw [written]
    exact cellAt_assign_other columns update.assignments row column inside
      (spared update member selected)

theorem selects_assigned (row : Row ν) (update other : KeyedUpdate ι ν)
    (present : keyColumn ∈ columns) (keeps : keyColumn ∉ update.assigned) :
    selects equals columns keyColumn (assign columns update.assignments row) other =
      selects equals columns keyColumn row other := by
  apply selects_congr
  exact cellAt_assign_other columns update.assignments row keyColumn present keeps

theorem runOn_idem (updates : List (KeyedUpdate ι ν)) (row : Row ν)
    (width : row.length = columns.length) (present : keyColumn ∈ columns)
    (keeps : ∀ update ∈ updates, keyColumn ∉ update.assigned)
    (once : ∀ update ∈ updates, update.assigned.Nodup)
    (bound : ∀ update ∈ updates, ∀ column ∈ update.assigned, column ∈ columns)
    (apart : Apart equals updates) :
    runOn equals columns keyColumn updates (runOn equals columns keyColumn updates row) =
      runOn equals columns keyColumn updates row := by
  rcases runOn_cases equals columns keyColumn updates row present keeps apart
    with ⟨_, stays⟩ | ⟨update, member, selected, written⟩
  · rw [stays, stays]
  · have again : selects equals columns keyColumn (assign columns update.assignments row) update =
        true := by
      rw [selects_assigned equals columns keyColumn row update update present (keeps update member),
        selected]
    rw [written, runOn_selected equals columns keyColumn updates _ present keeps apart update member
      again]
    apply assign_eq_self
    apply cellAt_assign_self columns update.assignments row width (once update member)
    intro assignment assigned
    exact bound update member assignment.1 (List.mem_map_of_mem assigned)

end Rows

theorem mapRows_nil (keyColumn : ι) (stored : Table ι ν) :
    stored.mapRows (runOn equals stored.columns keyColumn [])
      (runOn_length equals stored.columns keyColumn []) = stored := by
  ext1
  · rfl
  · exact List.map_id _

section Plans

variable (plan : UpdatePlan ι ν)

def onTable (stored : Table ι ν) : Table ι ν :=
  stored.mapRows (runOn equals stored.columns plan.keyColumn plan.updates)
    (runOn_length equals stored.columns plan.keyColumn plan.updates)

theorem perform_updates (table keyColumn : ι) (updates : List (KeyedUpdate ι ν))
    (stored : Table ι ν) (present : keyColumn ∈ stored.columns)
    (bound : ∀ update ∈ updates, ∀ column ∈ update.assigned, column ∈ stored.columns)
    (session : Session ι ν) (found : session.tables table = some stored) :
    perform equals (.block (updates.map (fun update =>
        .act (.update table update.assignments keyColumn update.key)))) session =
      ⟨session.store table (stored.mapRows (runOn equals stored.columns keyColumn updates)
        (runOn_length equals stored.columns keyColumn updates)), [], true⟩ := by
  induction updates generalizing stored session with
  | nil =>
      rw [mapRows_nil, Session.store, Function.update_eq_self_iff.mpr found.symm]
      rfl
  | cons update updates ih =>
      have named : ∀ column ∈ keyColumn :: update.assignments.map Prod.fst,
          column ∈ stored.columns := by
        intro column member
        rcases List.mem_cons.mp member with rfl | member
        · exact present
        · exact bound update List.mem_cons_self column member
      have first := performAction_ok equals
        (.update table update.assignments keyColumn update.key) session _
        (execUpdate_of session table equals update.assignments keyColumn update.key stored found named)
      have rest := ih (stored.update equals update.assignments keyColumn update.key) present
        (fun next inside => bound next (List.mem_cons_of_mem _ inside))
        (session.store table (stored.update equals update.assignments keyColumn update.key))
        (by simp [Session.store])
      calc
        _ = (performAction equals (.update table update.assignments keyColumn update.key)
              session).follow (perform equals (.block (updates.map (fun next =>
              .act (.update table next.assignments keyColumn next.key))))) := rfl
        _ = perform equals (.block (updates.map (fun next =>
              .act (.update table next.assignments keyColumn next.key))))
            (session.store table (stored.update equals update.assignments keyColumn update.key)) := by
          rw [first]
          exact follow_skip _ _
        _ = ⟨(session.store table
              (stored.update equals update.assignments keyColumn update.key)).store table
            ((stored.update equals update.assignments keyColumn update.key).mapRows
              (runOn equals stored.columns keyColumn updates)
              (runOn_length equals stored.columns keyColumn updates)), [], true⟩ := rest
        _ = _ := by
          congr 1
          simp only [Session.store, Function.update_idem]
          congr 3
          ext1
          · rfl
          · exact List.map_map

/-- A plan whose columns all exist runs without error, as one map over the rows. -/
theorem perform_script (stored : Table ι ν) (bound : plan.Bound stored.columns)
    (session : Session ι ν) (found : session.tables plan.table = some stored) :
    perform equals (.block plan.script) session =
      ⟨session.store plan.table (plan.onTable equals stored), [], true⟩ :=
  perform_updates equals plan.table plan.keyColumn plan.updates stored bound.1 bound.2 session found

theorem unbound_script (tables : Database ι ν) (stored : Table ι ν)
    (found : tables plan.table = some stored) :
    (Stmt.block plan.script).unbound tables = plan.updates.flatMap (fun update =>
      (plan.keyColumn :: update.assigned).filter (fun column => column ∉ stored.columns)) := by
  rw [unbound_block, script, List.flatMap_map]
  congr 1
  funext update
  simp only [Stmt.unbound, found]
  rfl

theorem unbound_bound (tables : Database ι ν) (stored : Table ι ν)
    (found : tables plan.table = some stored) (bound : plan.Bound stored.columns) :
    (Stmt.block plan.script).unbound tables = [] := by
  rw [plan.unbound_script tables stored found]
  apply List.flatMap_eq_nil_iff.mpr
  intro update member
  apply List.filter_eq_nil_iff.mpr
  intro column named
  rcases List.mem_cons.mp named with rfl | assigned
  · simpa using bound.1
  · simpa using bound.2 update member column assigned

theorem onTable_idem (stored : Table ι ν) (bound : plan.Bound stored.columns)
    (apart : Apart equals plan.updates) :
    plan.onTable equals (plan.onTable equals stored) = plan.onTable equals stored := by
  ext1
  · rfl
  · change (stored.rows.map _).map _ = stored.rows.map _
    rw [List.map_map]
    apply List.map_congr_left
    intro row member
    exact runOn_idem equals stored.columns plan.keyColumn plan.updates row
      (stored.rows_width row member) bound.1 plan.keeps_key plan.assigns_once bound.2 apart

end Plans

end UpdatePlan

end Sql
