import Mathlib.Data.List.Perm.Basic
import Mathlib.Logic.Function.Basic
import Mathlib.Logic.Relation

namespace Convergence

section Places

variable {ι α : Type*} [DecidableEq ι]

/-- An operation on a store which reads and writes one place of it. -/
def Confined (place : ι) (run : (ι → α) → ι → α) : Prop :=
  ∃ change : α → α, ∀ store, run store = Function.update store place (change (store place))

variable (place : ι) (first second : (ι → α) → ι → α)

theorem confined_elsewhere (confined : Confined place first) (store : ι → α) (other : ι)
    (apart : other ≠ place) : first store other = store other := by
  rcases confined with ⟨change, runs⟩
  rw [runs, Function.update_of_ne apart]

theorem confined_commute (other : ι) (left : Confined place first) (right : Confined other second)
    (apart : place ≠ other) (store : ι → α) : second (first store) = first (second store) := by
  rcases left with ⟨change, leftRuns⟩
  rcases right with ⟨further, rightRuns⟩
  rw [rightRuns, leftRuns, leftRuns, rightRuns, Function.update_of_ne apart.symm,
    Function.update_of_ne apart, Function.update_comm apart]

theorem confined_congr (confined : Confined place first) (store stored : ι → α)
    (same : store place = stored place) : first store place = first stored place := by
  rcases confined with ⟨change, runs⟩
  rw [runs, runs, Function.update_self, Function.update_self, same]

end Places

section Runs

variable {σ κ : Type*} (act : σ → κ → σ)

def Commuting : Prop :=
  ∀ state first second, act (act state first) second = act (act state second) first

theorem foldl_perm (commuting : Commuting act) (left right : List κ) (reordered : left.Perm right)
    (state : σ) : left.foldl act state = right.foldl act state :=
  reordered.foldl_eq' (fun first _ second _ current => commuting current first second) state

def Repeatable (action : κ) : Prop := ∀ state, act (act state action) action = act state action

theorem foldl_absorb (commuting : Commuting act) (action : κ) (repeatable : Repeatable act action)
    (state : σ) (actions : List κ) (member : action ∈ actions) :
    actions.foldl act (act state action) = actions.foldl act state := by
  rcases List.append_of_mem member with ⟨front, back, rfl⟩
  have moved : (front ++ action :: back).Perm (action :: (front ++ back)) := List.perm_middle
  rw [foldl_perm act commuting _ _ moved, foldl_perm act commuting _ _ moved, List.foldl_cons,
    List.foldl_cons, repeatable state]

variable (repeatable : ∀ action, Repeatable act action)

include repeatable

theorem foldl_absorb_all (commuting : Commuting act) (state : σ) (extra actions : List κ)
    (covered : ∀ action ∈ extra, action ∈ actions) :
    (extra ++ actions).foldl act state = actions.foldl act state := by
  induction extra generalizing state with
  | nil => rfl
  | cons action extra ih =>
      have coveredTail := fun other member => covered other (List.mem_cons_of_mem action member)
      rw [List.cons_append, List.foldl_cons, ih (act state action) coveredTail]
      exact foldl_absorb act commuting action (repeatable action) state actions
        (covered action List.mem_cons_self)

/-- Where actions commute and repeating one changes nothing, only which actions were taken
decides the state. -/
theorem foldl_same_members (commuting : Commuting act) (state : σ) (left right : List κ)
    (same : ∀ action, action ∈ left ↔ action ∈ right) :
    left.foldl act state = right.foldl act state := by
  calc
    _ = (right ++ left).foldl act state :=
      (foldl_absorb_all act repeatable commuting state right left
        (fun action => (same action).mpr)).symm
    _ = (left ++ right).foldl act state :=
      foldl_perm act commuting _ _ List.perm_append_comm state
    _ = right.foldl act state :=
      foldl_absorb_all act repeatable commuting state left right (fun action => (same action).mp)

end Runs

section Placed

variable {ι α κ : Type*} [DecidableEq ι] (place : κ → ι) (act : (ι → α) → κ → ι → α)

structure Placed : Prop where
  confined : ∀ action, Confined (place action) (fun store => act store action)
  apart : Function.Injective place

theorem placed_commuting (placed : Placed place act) : Commuting act := by
  intro store first second
  by_cases same : first = second
  · rw [same]
  · exact confined_commute (place first) (fun state => act state first)
      (fun state => act state second) (place second) (placed.confined first)
      (placed.confined second) (fun overlap => same (placed.apart overlap)) store

theorem placed_elsewhere (placed : Placed place act) (actions : List κ) (other : ι)
    (spared : ∀ action ∈ actions, other ≠ place action) (store : ι → α) :
    actions.foldl act store other = store other := by
  induction actions generalizing store with
  | nil => rfl
  | cons action actions ih =>
      rw [List.foldl_cons, ih (fun next member => spared next (List.mem_cons_of_mem _ member))]
      exact confined_elsewhere (place action) (fun state => act state action)
        (placed.confined action) store other (spared action List.mem_cons_self)

theorem placed_at (placed : Placed place act) (action : κ) (repeatable : Repeatable act action)
    (actions : List κ) (member : action ∈ actions) (store : ι → α) :
    actions.foldl act store (place action) = act store action (place action) := by
  induction actions generalizing store with
  | nil => cases member
  | cons head actions ih =>
      rw [List.foldl_cons]
      by_cases here : action = head
      · subst here
        by_cases again : action ∈ actions
        · rw [ih again (act store action), repeatable store]
        · apply placed_elsewhere place act placed
          intro other inside same
          exact again (placed.apart same ▸ inside)
      · have inTail := (List.mem_cons.mp member).resolve_left here
        have apart : place action ≠ place head := fun same => here (placed.apart same)
        rw [ih inTail (act store head)]
        apply confined_congr (place action) (fun state => act state action)
          (placed.confined action)
        exact confined_elsewhere (place head) (fun state => act state head) (placed.confined head)
          store (place action) apart

end Placed

section Interruptions

variable {ι α κ : Type*} [DecidableEq ι] (place : κ → ι) (act : (ι → α) → κ → ι → α)
  (stop : κ → (ι → α) → (ι → α) → Prop)

def ConfinedStop (here : ι) (stops : (ι → α) → (ι → α) → Prop) : Prop :=
  ∀ store after, stops store after → after = Function.update store here (after here) ∧
    ∀ other, other here = store here → stops other (Function.update other here (after here))

def Attempts (actions : List κ) (store after : ι → α) : Prop :=
  ∃ action ∈ actions, stop action store after

theorem attempts_elsewhere (confined : ∀ action, ConfinedStop (place action) (stop action))
    (actions : List κ) (other : ι) (spared : ∀ action ∈ actions, other ≠ place action)
    (store after : ι → α) (attempts : Relation.ReflTransGen (Attempts stop actions) store after) :
    after other = store other := by
  induction attempts with
  | refl => rfl
  | tail _ attempt ih =>
      rcases attempt with ⟨action, member, stopped⟩
      rw [(confined action _ _ stopped).1, Function.update_of_ne (spared action member), ih]

theorem attempts_alone (confined : ∀ action, ConfinedStop (place action) (stop action))
    (apart : Function.Injective place) (actions : List κ) (action : κ) (store after : ι → α)
    (attempts : Relation.ReflTransGen (Attempts stop actions) store after) :
    ∃ alone, Relation.ReflTransGen (stop action) store alone ∧
      alone (place action) = after (place action) := by
  induction attempts with
  | refl => exact ⟨store, .refl, rfl⟩
  | @tail middle after _ attempt ih =>
      rcases ih with ⟨alone, run, same⟩
      rcases attempt with ⟨other, _, stopped⟩
      by_cases here : other = action
      · subst here
        have moved := (confined other middle after stopped).2 alone same
        exact ⟨_, run.tail moved, Function.update_self _ _ _⟩
      · have elsewhere : place action ≠ place other := fun overlap => here (apart overlap).symm
        refine ⟨alone, run, ?_⟩
        rw [same, (confined other middle after stopped).1, Function.update_of_ne elsewhere]

/-- Where each action can be resumed after attempts at it alone, a run of them all ends the
same after attempts at any of them, in any order. -/
theorem attempts_converge (placed : Placed place act)
    (confined : ∀ action, ConfinedStop (place action) (stop action))
    (repeatable : ∀ action, Repeatable act action) (actions : List κ)
    (resumes : ∀ store after action, Relation.ReflTransGen (stop action) store after →
      act after action (place action) = act store action (place action))
    (store after : ι → α)
    (attempts : Relation.ReflTransGen (Attempts stop actions) store after) :
    actions.foldl act after = actions.foldl act store := by
  funext name
  by_cases named : ∃ action ∈ actions, name = place action
  · rcases named with ⟨action, member, rfl⟩
    rcases attempts_alone place stop confined placed.apart actions action store after attempts with
      ⟨alone, run, same⟩
    calc
      _ = act after action (place action) :=
        placed_at place act placed action (repeatable action) actions member after
      _ = act alone action (place action) :=
        confined_congr (place action) (fun state => act state action) (placed.confined action)
          after alone same.symm
      _ = act store action (place action) := resumes store alone action run
      _ = _ := (placed_at place act placed action (repeatable action) actions member store).symm
  · have spared : ∀ action ∈ actions, name ≠ place action :=
      fun action member same => named ⟨action, member, same⟩
    rw [placed_elsewhere place act placed actions name spared,
      placed_elsewhere place act placed actions name spared,
      attempts_elsewhere place stop confined actions name spared store after attempts]

end Interruptions

end Convergence
