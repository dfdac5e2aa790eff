import ReferenceData.Library.Sql.Rules

namespace Sql

variable {ι ν : Type} [DecidableEq ι]

structure CarriesRow (name : ι → ι) (source target : List ι) (row moved : Row ν) : Prop where
  width : moved.length = target.length
  cells : ∀ column ∈ source, cellAt target moved (name column) = cellAt source row column

/-- Row by row, `after` still holds every cell of `before`, each column under its new name. -/
structure Carries (name : ι → ι) (before after : Table ι ν) : Prop where
  columns : ∀ column ∈ before.columns, name column ∈ after.columns
  rows : List.Forall₂ (CarriesRow name before.columns after.columns) before.rows after.rows

def renamed (old new column : ι) : ι := if column = old then new else column

section Carrying

variable (name : ι → ι) (before : Table ι ν)

theorem carries_fixed (fixed : ∀ column ∈ before.columns, name column = column) :
    Carries name before before := by
  constructor
  · intro column member
    rw [fixed column member]
    exact member
  · apply List.forall₂_same.mpr
    intro row member
    refine ⟨before.rows_width row member, ?_⟩
    intro column inside
    rw [fixed column inside]

theorem carries_trans (next : ι → ι) (middle after : Table ι ν) (first : Carries name before middle)
    (second : Carries next middle after) : Carries (fun column => next (name column)) before after := by
  constructor
  · intro column member
    exact second.columns (name column) (first.columns column member)
  · have compose : ∀ front inner back : List (Row ν),
        List.Forall₂ (CarriesRow name before.columns middle.columns) front inner →
        List.Forall₂ (CarriesRow next middle.columns after.columns) inner back →
        List.Forall₂ (CarriesRow (fun column => next (name column)) before.columns after.columns)
          front back := by
      intro front inner back left
      induction left generalizing back with
      | nil =>
          intro right
          cases right
          exact .nil
      | cons carried _ ih =>
          intro right
          cases right with
          | cons further rest =>
              refine .cons ⟨further.width, ?_⟩ (ih _ rest)
              intro column member
              rw [further.cells (name column) (first.columns column member),
                carried.cells column member]
    exact compose _ _ _ first.rows second.rows

theorem carries_renameColumn (old new : ι) (fresh : new ∉ before.columns) :
    Carries (renamed old new) before (before.renameColumn old new fresh) := by
  constructor
  · intro column member
    exact List.mem_map_of_mem member
  · apply List.forall₂_same.mpr
    intro row member
    refine ⟨(before.renameColumn old new fresh).rows_width row member, ?_⟩
    intro column inside
    by_cases atOld : column = old
    · rw [renamed, if_pos atOld, atOld]
      exact cellAt_renameIn_new before.columns row old new fresh
    · have notNew : column ≠ new := fun same => fresh (same ▸ inside)
      rw [renamed, if_neg atOld]
      exact cellAt_renameIn_other before.columns row old new column atOld notNew

theorem carries_addColumn (column : ι) (nullable : Bool) (default : ν)
    (fresh : column ∉ before.columns) :
    Carries id before (before.addColumn column nullable default fresh) := by
  constructor
  · intro other member
    exact List.mem_append_left _ member
  · apply List.forall₂_map_right_iff.mpr
    apply List.forall₂_same.mpr
    intro row member
    have width := before.rows_width row member
    refine ⟨by simp [Table.addColumn, width], ?_⟩
    intro other inside
    exact cellAt_append before.columns row width column other _ inside

end Carrying

/-- A table a script has brought from `before` towards a schema: `needed` columns are there
and `gone` ones are not. -/
structure Evolved (name : ι → ι) (before : Table ι ν) (needed gone : List ι)
    (stored : Table ι ν) : Prop where
  carries : Carries name before stored
  needed : ∀ column ∈ needed, column ∈ stored.columns
  gone : ∀ column ∈ gone, column ∉ stored.columns

def Holds (tables : Database ι ν) (table : ι) (evolved : Table ι ν → Prop)
    (session : Session ι ν) : Prop :=
  ∃ stored, session.tables = Function.update tables table (some stored) ∧ evolved stored

section Scripts

variable (equals : ν → ν → Bool) (tables : Database ι ν) (table : ι)

theorem holds_found (evolved : Table ι ν → Prop) (session : Session ι ν)
    (holds : Holds tables table evolved session) :
    ∃ stored, session.tables table = some stored ∧ evolved stored := by
  rcases holds with ⟨stored, stands, reached⟩
  exact ⟨stored, by rw [stands, Function.update_self], reached⟩

theorem holds_store (evolved : Table ι ν → Prop) (session : Session ι ν) (stored : Table ι ν)
    (holds : Holds tables table (fun _ => True) session) (reached : evolved stored) :
    Holds tables table evolved (session.store table stored) := by
  rcases holds with ⟨previous, stands, _⟩
  refine ⟨stored, ?_, reached⟩
  rw [Session.store, stands, Function.update_idem]

theorem triple_holds_weaken (pre : Session ι ν → Prop) (evolved further : Table ι ν → Prop)
    (stmt : Stmt ι ν) (errors : List (Error ι))
    (triple : Triple equals pre stmt errors (Holds tables table evolved))
    (implies : ∀ stored, evolved stored → further stored) :
    Triple equals pre stmt errors (Holds tables table further) :=
  triple_weaken equals pre _ _ stmt errors triple
    (fun _ holds => holds.imp (fun stored held => ⟨held.1, implies stored held.2⟩))

theorem triple_holds_selectAll (evolved : Table ι ν → Prop) :
    Triple equals (Holds tables table evolved) (.act (.selectAll table)) []
      (Holds tables table evolved) := by
  apply triple_selectAll
  · intro session holds
    rcases holds_found tables table evolved session holds with ⟨stored, found, _⟩
    exact ⟨stored, found⟩
  · intro session item holds
    exact holds

theorem perform_printed (text : String) (action : Action ι ν) (session : Session ι ν) :
    perform equals (.block [.act (.print text), .act action]) session =
      performAction equals action (session.emit (.message text)) := by
  change (performAction equals action (session.emit (.message text))).follow
    (fun final => ⟨final, [], true⟩) = _
  rcases performAction equals action (session.emit (.message text)) with ⟨final, errors, goesOn⟩
  cases goesOn <;> simp [Performed.follow]

variable (name : ι → ι) (before : Table ι ν) (needed gone : List ι)

/-- `IF NOT EXISTS (column) BEGIN PRINT ... ALTER TABLE ... ADD column ... END` -/
theorem triple_createColumn (column : ι) (text : String) (nullable : Bool) (default : ν)
    (kept : column ∉ gone) :
    Triple equals (Holds tables table (Evolved name before needed gone))
      (.ifColumn false table column (.block
        [.act (.print text), .act (.addColumn table column nullable default)])) []
      (Holds tables table (Evolved name before (column :: needed) gone)) := by
  apply triple_ifColumn
  · intro session start
    rcases start with ⟨holds, guard⟩
    rcases holds_found tables table _ session holds with ⟨stored, found, evolved⟩
    have fresh : column ∉ stored.columns := by
      simpa [Database.hasColumn, found] using guard
    have added := execAdd_of (session.emit (.message text)) table column nullable default stored
      found fresh
    refine ⟨_, (perform_printed equals text _ session).trans
      (performAction_ok equals _ _ _ added), holds_store tables table _ _ _ ?_ ?_⟩
    · rcases holds with ⟨stored, stands, _⟩
      exact ⟨stored, stands, trivial⟩
    · constructor
      · exact carries_trans name before id stored _ evolved.carries
          (carries_addColumn stored column nullable default fresh)
      · intro other member
        rcases List.mem_cons.mp member with rfl | member
        · exact List.mem_append_right _ List.mem_cons_self
        · exact List.mem_append_left _ (evolved.needed other member)
      · intro other member inside
        rcases List.mem_append.mp inside with stays | new
        · exact evolved.gone other member stays
        · rw [List.mem_singleton.mp new] at member
          exact kept member
  · intro session holds guard
    rcases holds with ⟨stored, stands, evolved⟩
    refine ⟨rfl, stored, stands, evolved.carries, ?_, evolved.gone⟩
    have present : column ∈ stored.columns := by
      simpa [Database.hasColumn, stands] using guard
    intro other member
    rcases List.mem_cons.mp member with rfl | member
    · exact present
    · exact evolved.needed other member

section Renaming

variable (old new : ι) (text : String)

/-- `IF EXISTS (old) BEGIN PRINT ... EXEC sp_rename old, new END` -/
def renameGuarded : Stmt ι ν :=
  .ifColumn true table old (.block
    [.act (.print text), .act (.renameColumn table old new)])

theorem renameIn_absent (columns : List ι) (absent : old ∉ columns) :
    renameIn old new columns = columns := by
  apply (List.map_congr_left _).trans (List.map_id columns)
  intro column member
  have notOld : column ≠ old := fun same => absent (same ▸ member)
  exact if_neg notOld

theorem triple_renameGuarded (single : old ∈ before.columns → new ∉ before.columns)
    (found : tables table = some before) :
    Triple equals (fun session => session.tables = tables) (renameGuarded table old new text) []
      (Holds tables table (fun stored => Carries (renamed old new) before stored ∧
        stored.columns = renameIn old new before.columns)) := by
  apply triple_ifColumn
  · intro session start
    rcases start with ⟨rfl, guard⟩
    have present : old ∈ before.columns := by
      simpa [Database.hasColumn, found] using guard
    have fresh := single present
    have renames := execRename_of (session.emit (.message text)) table old new before found present
      fresh
    exact ⟨_, (perform_printed equals text _ session).trans (performAction_ok equals _ _ _ renames),
      before.renameColumn old new fresh, rfl, carries_renameColumn before old new fresh, rfl⟩
  · intro session stands guard
    have absent : old ∉ before.columns := by
      simpa [Database.hasColumn, stands, found] using guard
    refine ⟨rfl, before, ?_, carries_fixed _ before ?_, (renameIn_absent old new _ absent).symm⟩
    · rw [stands, Function.update_eq_self_iff.mpr found.symm]
    · intro column member
      have notOld : column ≠ old := fun same => absent (same ▸ member)
      exact if_neg notOld

theorem triple_renameTaken (present : old ∈ before.columns) (taken : new ∈ before.columns)
    (found : tables table = some before) :
    Triple equals (fun session => session.tables = tables) (renameGuarded table old new text)
      [.columnInUse new] (Holds tables table (Evolved id before [] [])) := by
  apply triple_ifColumn
  · intro session start
    rcases start with ⟨rfl, _⟩
    have refused : performAction equals (.renameColumn table old new)
        (session.emit (.message text)) =
        ⟨session.emit (.message text), [.columnInUse new], true⟩ := by
      have same : (session.emit (.message text)).tables table = some before := found
      simp [performAction, exec, execRename, same, taken, Action.survivable]
    refine ⟨_, (perform_printed equals text _ session).trans refused, before, ?_,
      carries_fixed id before (fun _ _ => rfl), by simp, by simp⟩
    exact (Function.update_eq_self_iff.mpr found.symm).symm
  · intro session stands guard
    exact absurd (by simpa [Database.hasColumn, stands, found] using present) guard

theorem evolved_renamed (stored : Table ι ν) (distinct : old ≠ new)
    (either : old ∈ before.columns ∨ new ∈ before.columns)
    (carries : Carries (renamed old new) before stored)
    (columns : stored.columns = renameIn old new before.columns) :
    Evolved (renamed old new) before [new] [old] stored := by
  refine ⟨carries, ?_, ?_⟩
  · intro column member
    rw [List.mem_singleton.mp member, columns]
    rcases either with present | present
    · exact List.mem_map.mpr ⟨old, present, if_pos rfl⟩
    · exact List.mem_map.mpr ⟨new, present, if_neg distinct.symm⟩
  · intro column member inside
    rw [List.mem_singleton.mp member, columns] at inside
    rcases List.mem_map.mp inside with ⟨source, _, same⟩
    by_cases atOld : source = old
    · rw [if_pos atOld] at same
      exact distinct same.symm
    · rw [if_neg atOld] at same
      exact atOld same

end Renaming

end Scripts

end Sql
