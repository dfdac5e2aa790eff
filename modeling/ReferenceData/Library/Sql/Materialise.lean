import ReferenceData.Library.ResultSet
import ReferenceData.Library.Sql.Rules

namespace Sql

variable {ι ν β : Type} [DecidableEq ι]

/-- The cells of a row under their columns, NULL where there is no such column. -/
def cellsOf (columns : List ι) (row : Row ν) (column : ι) : Option ν :=
  (cellAt columns row column).join

/-- The objects of a query, one a row. It fails where the table cannot be queried or a row
cannot be read. -/
def materialise (tables : Database ι ν) (table : ι) (columns : List ι)
    (read : (ι → Option ν) → Option β) : Option (List β) :=
  match select tables table columns with
  | .error _ => none
  | .ok rows => rows.mapM (fun row => read (cellsOf columns row))

def ReadsOnly (columns : List ι) (read : (ι → Option ν) → Option β) : Prop :=
  ∀ first second, (∀ column ∈ columns, first column = second column) → read first = read second

section Cells

variable (columns : List ι) (row : Row ν)

/-- A column added with NULLs is not to be told from a missing one. -/
theorem cellsOf_added (added : ι) (width : row.length = columns.length) :
    cellsOf (columns ++ [added]) (row ++ [none]) = cellsOf columns row := by
  funext column
  by_cases present : column ∈ columns
  · rw [cellsOf, cellsOf, cellAt_append columns row width added column none present]
  · have outside : row.length ≤ columns.idxOf column := by
      have last := List.idxOf_eq_length present
      omega
    have missing : cellAt columns row column = none := List.getElem?_eq_none outside
    rw [cellsOf, cellsOf, missing, cellAt, List.idxOf_append_of_notMem present, ← width]
    by_cases same : column = added
    · simp [same]
    · simp [Ne.symm same]

theorem cellsOf_map (cell : ι → Option ν) (column : ι) (present : column ∈ columns) :
    cellsOf columns (columns.map cell) column = cell column := by
  rw [cellsOf, cellAt_map columns cell column present]
  rfl

end Cells

section Queries

variable (tables : Database ι ν) (table : ι) (columns : List ι) (read : (ι → Option ν) → Option β)

theorem materialise_of (only : ReadsOnly columns read) (stored : Table ι ν)
    (found : tables table = some stored) (complete : ∀ column ∈ columns, column ∈ stored.columns) :
    materialise tables table columns read =
      stored.rows.mapM (fun row => read (cellsOf stored.columns row)) := by
  have bound : columns.find? (fun column => column ∉ stored.columns) = none := by
    apply List.find?_eq_none.mpr
    intro column member
    simpa using complete column member
  have selected : select tables table columns =
      .ok (stored.rows.map (fun row => columns.map (cellsOf stored.columns row))) := by
    simp only [select, found, bound]
    rfl
  simp only [materialise, selected, List.mapM_map]
  congr 1
  funext row
  apply only
  intro column member
  exact cellsOf_map columns (cellsOf stored.columns row) column member

theorem materialise_none (unanswered : ¬ ∃ stored, tables table = some stored ∧
    ∀ column ∈ columns, column ∈ stored.columns) :
    materialise tables table columns read = none := by
  cases selected : select tables table columns with
  | error problem => rw [materialise, selected]
  | ok rows => exact absurd ((select_ok_iff tables table columns).mp ⟨rows, selected⟩) unanswered

theorem materialise_some (only : ReadsOnly columns read) (objects : List β)
    (loaded : materialise tables table columns read = some objects) :
    ∃ stored, tables table = some stored ∧ (∀ column ∈ columns, column ∈ stored.columns) ∧
      stored.rows.mapM (fun row => read (cellsOf stored.columns row)) = some objects := by
  by_cases answered : ∃ stored, tables table = some stored ∧
      ∀ column ∈ columns, column ∈ stored.columns
  · rcases answered with ⟨stored, found, complete⟩
    rw [materialise_of tables table columns read only stored found complete] at loaded
    exact ⟨stored, found, complete, loaded⟩
  · rw [materialise_none tables table columns read answered] at loaded
    cases loaded

theorem materialise_exists_iff (only : ReadsOnly columns read) :
    (∃ objects, materialise tables table columns read = some objects) ↔
      ∃ stored, tables table = some stored ∧ (∀ column ∈ columns, column ∈ stored.columns) ∧
        ∀ row ∈ stored.rows, ∃ object, read (cellsOf stored.columns row) = some object := by
  constructor
  · intro answered
    rcases answered with ⟨objects, loaded⟩
    rcases materialise_some tables table columns read only objects loaded with
      ⟨stored, found, complete, rows⟩
    exact ⟨stored, found, complete, (ResultSet.loaded_exists_iff _ _).mp ⟨objects, rows⟩⟩
  · intro readable
    rcases readable with ⟨stored, found, complete, rows⟩
    rcases (ResultSet.loaded_exists_iff _ _).mpr rows with ⟨objects, loaded⟩
    exact ⟨objects, (materialise_of tables table columns read only stored found complete).trans loaded⟩

/-- Where rows move so that what was read can be read again, a whole answer moves with them. -/
theorem materialise_related (only : ReadsOnly columns read) (other : Database ι ν)
    (before current : Table ι ν) (found : tables table = some before)
    (reached : other table = some current) (same : current.columns = before.columns)
    (moved : Row ν → Row ν → Prop) (rows : List.Forall₂ moved before.rows current.rows)
    (changes : β → β → Prop)
    (step : ∀ row later object, row.length = before.columns.length → moved row later →
      read (cellsOf before.columns row) = some object →
      ∃ next, read (cellsOf before.columns later) = some next ∧ changes object next)
    (objects : List β) (loaded : materialise tables table columns read = some objects) :
    ∃ served, materialise other table columns read = some served ∧
      List.Forall₂ changes objects served := by
  rcases materialise_some tables table columns read only objects loaded with
    ⟨stored, foundToo, complete, ran⟩
  rw [found] at foundToo
  cases foundToo
  rw [materialise_of other table columns read only current reached (same ▸ complete), same]
  apply ResultSet.loaded_related _ (fun row later => row.length = before.columns.length ∧
    moved row later) changes _ before.rows current.rows _ objects ran
  · intro row later object related loadedRow
    exact step row later object related.1 related.2 loadedRow
  · exact (List.forall₂_and_left _ _).mpr ⟨before.rows_width, rows⟩

theorem materialise_congr (other : Database ι ν) (same : other table = tables table) :
    materialise other table columns read = materialise tables table columns read := by
  simp only [materialise, select, same]

end Queries

end Sql
