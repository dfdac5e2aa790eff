import Mathlib.Data.List.Nodup
import Mathlib.Data.List.Forall2

namespace Sql

variable {ι ν : Type} [DecidableEq ι]

/-- A stored row: one cell a column, `none` being NULL. -/
abbrev Row (ν : Type) := List (Option ν)

@[ext]
structure Table (ι ν : Type) where
  columns : List ι
  rows : List (Row ν)
  columns_nodup : columns.Nodup
  rows_width : ∀ row ∈ rows, row.length = columns.length

def cellAt (columns : List ι) (row : Row ν) (column : ι) : Option (Option ν) :=
  row[columns.idxOf column]?

def renameIn (old new : ι) (columns : List ι) : List ι :=
  columns.map (fun column => if column = old then new else column)

def assignCell (columns : List ι) (row : Row ν) (assignment : ι × ν) : Row ν :=
  row.set (columns.idxOf assignment.1) (some assignment.2)

def assign (columns : List ι) (assignments : List (ι × ν)) (row : Row ν) : Row ν :=
  assignments.foldl (assignCell columns) row

/-- `WHERE column = value`: NULL compares equal to nothing. -/
def matchesCell (equals : ν → ν → Bool) (columns : List ι) (column : ι) (value : ν)
    (row : Row ν) : Bool :=
  match cellAt columns row column with
  | some (some cell) => equals cell value
  | _ => false

theorem assign_length (columns : List ι) (assignments : List (ι × ν)) (row : Row ν) :
    (assign columns assignments row).length = row.length := by
  induction assignments generalizing row with
  | nil => rfl
  | cons assignment assignments ih =>
      rw [assign, List.foldl_cons, ← assign, ih]
      exact List.length_set

theorem renameIn_nodup (old new : ι) (columns : List ι) (nodup : columns.Nodup)
    (fresh : new ∉ columns) : (renameIn old new columns).Nodup := by
  apply List.Nodup.map_on _ nodup
  intro first left second right same
  by_cases firstOld : first = old <;> by_cases secondOld : second = old
  · rw [firstOld, secondOld]
  · simp only [firstOld, secondOld, if_true, if_false] at same
    exact absurd (same ▸ right) fresh
  · simp only [firstOld, secondOld, if_true, if_false] at same
    exact absurd (same ▸ left) fresh
  · simpa only [firstOld, secondOld, if_false] using same

namespace Table

def renameColumn (table : Table ι ν) (old new : ι) (fresh : new ∉ table.columns) : Table ι ν where
  columns := renameIn old new table.columns
  rows := table.rows
  columns_nodup := renameIn_nodup old new table.columns table.columns_nodup fresh
  rows_width row member := by simpa [renameIn] using table.rows_width row member

/-- Existing rows take the default only where the new column cannot be NULL. -/
def addColumn (table : Table ι ν) (column : ι) (nullable : Bool) (default : ν)
    (fresh : column ∉ table.columns) : Table ι ν where
  columns := table.columns ++ [column]
  rows := table.rows.map (fun row => row ++ [if nullable then none else some default])
  columns_nodup := List.nodup_append.mpr
    ⟨table.columns_nodup, List.nodup_singleton column, by
      intro first left second right same
      rw [List.mem_singleton] at right
      exact fresh (right ▸ same ▸ left)⟩
  rows_width row member := by
    obtain ⟨stored, inside, rfl⟩ := List.mem_map.mp member
    simp [table.rows_width stored inside]

def mapRows (table : Table ι ν) (change : Row ν → Row ν)
    (width : ∀ row, (change row).length = row.length) : Table ι ν where
  columns := table.columns
  rows := table.rows.map change
  columns_nodup := table.columns_nodup
  rows_width row member := by
    obtain ⟨stored, inside, rfl⟩ := List.mem_map.mp member
    rw [width, table.rows_width stored inside]

def updateRow (equals : ν → ν → Bool) (columns : List ι) (assignments : List (ι × ν))
    (whereColumn : ι) (whereValue : ν) (row : Row ν) : Row ν :=
  if matchesCell equals columns whereColumn whereValue row then assign columns assignments row
  else row

theorem updateRow_length (equals : ν → ν → Bool) (columns : List ι) (assignments : List (ι × ν))
    (whereColumn : ι) (whereValue : ν) (row : Row ν) :
    (updateRow equals columns assignments whereColumn whereValue row).length = row.length := by
  unfold updateRow
  split
  · exact assign_length columns assignments row
  · rfl

def update (table : Table ι ν) (equals : ν → ν → Bool) (assignments : List (ι × ν))
    (whereColumn : ι) (whereValue : ν) : Table ι ν :=
  table.mapRows (updateRow equals table.columns assignments whereColumn whereValue)
    (updateRow_length equals table.columns assignments whereColumn whereValue)

end Table

section Cells

variable (columns : List ι) (row : Row ν)

theorem idxOf_renameIn_new (old new : ι) (fresh : new ∉ columns) :
    (renameIn old new columns).idxOf new = columns.idxOf old := by
  induction columns with
  | nil => rfl
  | cons column columns ih =>
      have notNew : column ≠ new := fun same => fresh (same ▸ List.mem_cons_self)
      have tailFresh : new ∉ columns := fun member => fresh (List.mem_cons_of_mem _ member)
      by_cases atOld : column = old
      · simp [renameIn, atOld]
      · have tail := ih tailFresh
        simp only [renameIn] at tail
        simp [renameIn, atOld, notNew, tail]

theorem idxOf_renameIn_other (old new column : ι) (notOld : column ≠ old) (notNew : column ≠ new) :
    (renameIn old new columns).idxOf column = columns.idxOf column := by
  induction columns with
  | nil => rfl
  | cons head columns ih =>
      simp only [renameIn] at ih
      by_cases atOld : head = old
      · simp [renameIn, atOld, ih, Ne.symm notOld, Ne.symm notNew]
      · simp [renameIn, atOld, List.idxOf_cons, ih]

theorem cellAt_renameIn_new (old new : ι) (fresh : new ∉ columns) :
    cellAt (renameIn old new columns) row new = cellAt columns row old := by
  rw [cellAt, cellAt, idxOf_renameIn_new columns old new fresh]

theorem cellAt_renameIn_other (old new column : ι) (notOld : column ≠ old)
    (notNew : column ≠ new) :
    cellAt (renameIn old new columns) row column = cellAt columns row column := by
  rw [cellAt, cellAt, idxOf_renameIn_other columns old new column notOld notNew]

theorem cellAt_append (width : row.length = columns.length) (added column : ι) (cell : Option ν)
    (present : column ∈ columns) :
    cellAt (columns ++ [added]) (row ++ [cell]) column = cellAt columns row column := by
  have inside : columns.idxOf column < row.length := by
    rw [width]
    exact List.idxOf_lt_length_of_mem present
  rw [cellAt, cellAt, List.idxOf_append_of_mem present, List.getElem?_append_left inside]

theorem cellAt_assignCell_other (assignment : ι × ν) (column : ι) (present : column ∈ columns)
    (other : column ≠ assignment.1) :
    cellAt columns (assignCell columns row assignment) column = cellAt columns row column := by
  have apart : columns.idxOf assignment.1 ≠ columns.idxOf column := fun same =>
    other ((List.idxOf_inj present).mp same.symm)
  exact List.getElem?_set_ne apart

theorem cellAt_assignCell_self (assignment : ι × ν) (width : row.length = columns.length)
    (present : assignment.1 ∈ columns) :
    cellAt columns (assignCell columns row assignment) assignment.1 = some (some assignment.2) := by
  have inside : columns.idxOf assignment.1 < row.length := by
    rw [width]
    exact List.idxOf_lt_length_of_mem present
  exact List.getElem?_set_self inside

theorem cellAt_map (cell : ι → Option ν) (column : ι) (present : column ∈ columns) :
    cellAt columns (columns.map cell) column = some (cell column) := by
  have inside := List.idxOf_lt_length_of_mem present
  rw [cellAt, List.getElem?_map, List.getElem?_eq_getElem inside, List.getElem_idxOf inside]
  rfl

end Cells

theorem cellAt_assign_other (columns : List ι) (assignments : List (ι × ν)) (row : Row ν)
    (column : ι) (present : column ∈ columns) (other : column ∉ assignments.map Prod.fst) :
    cellAt columns (assign columns assignments row) column = cellAt columns row column := by
  induction assignments generalizing row with
  | nil => rfl
  | cons assignment assignments ih =>
      simp only [List.map_cons, List.mem_cons, not_or] at other
      rw [assign, List.foldl_cons, ← assign, ih _ other.2]
      exact cellAt_assignCell_other columns row assignment column present other.1

theorem cellAt_assign_self (columns : List ι) (assignments : List (ι × ν)) (row : Row ν)
    (width : row.length = columns.length) (nodup : (assignments.map Prod.fst).Nodup)
    (present : ∀ assignment ∈ assignments, assignment.1 ∈ columns) :
    ∀ assignment ∈ assignments,
      cellAt columns (assign columns assignments row) assignment.1 = some (some assignment.2) := by
  induction assignments generalizing row with
  | nil => simp
  | cons head assignments ih =>
      obtain ⟨headFresh, tailNodup⟩ := List.nodup_cons.mp nodup
      have headWidth : (assignCell columns row head).length = columns.length :=
        List.length_set.trans width
      intro assignment member
      rw [assign, List.foldl_cons, ← assign]
      rcases List.mem_cons.mp member with rfl | member
      · rw [cellAt_assign_other columns assignments _ assignment.1
          (present assignment List.mem_cons_self) headFresh]
        exact cellAt_assignCell_self columns row assignment width
          (present assignment List.mem_cons_self)
      · exact ih _ headWidth tailNodup
          (fun next inside => present next (List.mem_cons_of_mem _ inside)) assignment member

theorem assign_eq_self (columns : List ι) (assignments : List (ι × ν)) (row : Row ν)
    (already : ∀ assignment ∈ assignments,
      cellAt columns row assignment.1 = some (some assignment.2)) :
    assign columns assignments row = row := by
  induction assignments with
  | nil => rfl
  | cons head assignments ih =>
      have stays : assignCell columns row head = row := by
        obtain ⟨inside, value⟩ := List.getElem?_eq_some_iff.mp (already head List.mem_cons_self)
        rw [assignCell, ← value]
        exact List.set_getElem_self inside
      rw [assign, List.foldl_cons, stays, ← assign]
      exact ih (fun next member => already next (List.mem_cons_of_mem _ member))

end Sql
