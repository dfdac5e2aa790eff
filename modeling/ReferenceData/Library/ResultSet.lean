import Mathlib.Data.List.Forall2
import Mathlib.Data.List.Nodup
import Mathlib.Data.Set.Basic

namespace ResultSet

variable {α κ : Type*}

/-- A query answer read as a set: every row of the set, each once, in any order. -/
structure Enumerates (rows : List α) (answer : Set α) : Prop where
  once : rows.Nodup
  exact : ∀ row, row ∈ rows ↔ row ∈ answer

theorem enumerates_unique (rows : List α) (first second : Set α)
    (left : Enumerates rows first) (right : Enumerates rows second) : first = second := by
  ext row
  rw [← left.exact, right.exact]

theorem enumerates_flatten (keys : List κ) (answer : κ → Set α) (pages : List (List α))
    (each : List.Forall₂ (fun key page => Enumerates page (answer key)) keys pages)
    (apart : keys.Pairwise (fun first second => ∀ row ∈ answer first, row ∉ answer second)) :
    Enumerates pages.flatten {row | ∃ key ∈ keys, row ∈ answer key} := by
  induction each with
  | nil => exact ⟨List.nodup_nil, by simp⟩
  | @cons key page keys pages head _ ih =>
      obtain ⟨others, tail⟩ := List.pairwise_cons.mp apart
      have rest := ih tail
      constructor
      · apply List.nodup_append'.mpr
        refine ⟨head.once, rest.once, ?_⟩
        intro row first later
        obtain ⟨other, member, inside⟩ := (rest.exact row).mp later
        exact others other member row ((head.exact row).mp first) inside
      · intro row
        rw [List.flatten_cons, List.mem_append, head.exact, rest.exact]
        simp

/-- A primary key: no two rows carry the same key. -/
def Keyed (key : α → κ) (rows : List α) : Prop := (rows.map key).Nodup

instance [DecidableEq κ] (key : α → κ) (rows : List α) : Decidable (Keyed key rows) :=
  inferInstanceAs (Decidable (rows.map key).Nodup)

theorem Keyed.nodup {key : α → κ} {rows : List α} (keyed : Keyed key rows) : rows.Nodup :=
  List.Nodup.of_map key keyed

theorem Keyed.filter {key : α → κ} {rows : List α} (keyed : Keyed key rows) (keep : α → Bool) :
    Keyed key (rows.filter keep) :=
  List.Nodup.sublist (List.Sublist.map key List.filter_sublist) keyed

theorem Keyed.eq_of_key {key : α → κ} {rows : List α} (keyed : Keyed key rows) (first second : α)
    (left : first ∈ rows) (right : second ∈ rows) (same : key first = key second) :
    first = second :=
  List.inj_on_of_nodup_map keyed left right same

theorem Keyed.find_iff [DecidableEq κ] {key : α → κ} {rows : List α} (keyed : Keyed key rows)
    (k : κ) (row : α) :
    rows.find? (fun other => key other == k) = some row ↔ row ∈ rows ∧ key row = k := by
  constructor
  · intro found
    exact ⟨List.mem_of_find?_eq_some found, by simpa using List.find?_some found⟩
  · intro stored
    rcases stored with ⟨member, atKey⟩
    cases found : rows.find? (fun other => key other == k) with
    | none =>
        have absent := List.find?_eq_none.mp found row member
        simp [atKey] at absent
    | some other =>
        have otherKey : key other = k := by simpa using List.find?_some found
        rw [keyed.eq_of_key other row (List.mem_of_find?_eq_some found) member
          (otherKey.trans atKey.symm)]

def distinct (same : α → α → Bool) : List α → List α
  | [] => []
  | row :: rows => row :: (distinct same rows).filter (fun other => !same row other)

theorem distinct_of_apart (same : α → α → Bool) (rows : List α)
    (apart : rows.Pairwise (fun first second => same first second = false)) :
    distinct same rows = rows := by
  induction rows with
  | nil => rfl
  | cons row rows ih =>
      obtain ⟨head, tail⟩ := List.pairwise_cons.mp apart
      rw [distinct, ih tail]
      congr 1
      apply List.filter_eq_self.mpr
      intro other member
      simp [head other member]

theorem Keyed.distinct_eq {key : α → κ} {rows : List α} (keyed : Keyed key rows)
    (same : α → α → Bool) (respects : ∀ a b, same a b = true → key a = key b) :
    distinct same rows = rows := by
  apply distinct_of_apart
  have keysApart : rows.Pairwise (fun first second => key first ≠ key second) :=
    List.pairwise_map.mp keyed
  apply keysApart.imp
  intro first second different
  cases compared : same first second with
  | false => rfl
  | true => exact absurd (respects first second compared) different

theorem loaded_congr {β : Type*} (first second : α → Option β) (rows : List α)
    (same : ∀ row ∈ rows, first row = second row) : rows.mapM first = rows.mapM second := by
  induction rows with
  | nil => rfl
  | cons row rows ih =>
      rw [List.mapM_cons, List.mapM_cons, same row List.mem_cons_self,
        ih (fun other member => same other (List.mem_cons_of_mem _ member))]

theorem loaded_exists_iff {β : Type*} (load : α → Option β) (rows : List α) :
    (∃ entities, rows.mapM load = some entities) ↔ ∀ row ∈ rows, ∃ entity, load row = some entity := by
  induction rows with
  | nil => simp
  | cons row rows ih =>
      rw [List.forall_mem_cons, ← ih, List.mapM_cons]
      constructor
      · intro loaded
        rcases loaded with ⟨entities, loaded⟩
        rcases Option.bind_eq_some_iff.mp loaded with ⟨first, ranFirst, loaded⟩
        rcases Option.bind_eq_some_iff.mp loaded with ⟨rest, ranRest, _⟩
        exact ⟨⟨first, ranFirst⟩, rest, ranRest⟩
      · intro parts
        rcases parts with ⟨⟨first, ranFirst⟩, rest, ranRest⟩
        refine ⟨first :: rest, ?_⟩
        rw [ranFirst, ranRest]
        rfl

theorem loaded_related {α β : Type} (load : α → Option β) (moved : α → α → Prop)
    (changes : β → β → Prop)
    (step : ∀ row current entity, moved row current → load row = some entity →
      ∃ reached, load current = some reached ∧ changes entity reached)
    (rows currents : List α) (related : List.Forall₂ moved rows currents) (entities : List β)
    (loaded : rows.mapM load = some entities) :
    ∃ reached, currents.mapM load = some reached ∧ List.Forall₂ changes entities reached := by
  induction related generalizing entities with
  | nil =>
      rw [List.mapM_nil] at loaded
      cases loaded
      exact ⟨[], List.mapM_nil, .nil⟩
  | cons head _ ih =>
      rw [List.mapM_cons] at loaded
      obtain ⟨first, ranFirst, loaded⟩ := Option.bind_eq_some_iff.mp loaded
      obtain ⟨rest, ranRest, loaded⟩ := Option.bind_eq_some_iff.mp loaded
      cases loaded
      obtain ⟨reached, ranReached, changed⟩ := step _ _ first head ranFirst
      obtain ⟨tail, ranTail, others⟩ := ih rest ranRest
      refine ⟨reached :: tail, ?_, .cons changed others⟩
      rw [List.mapM_cons, ranReached, ranTail]
      rfl

end ResultSet
