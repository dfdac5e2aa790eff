import Mathlib.Data.List.Sort

namespace StableSort

structure TotalPreorder (α : Type*) where
  le : α → α → Bool
  trans : ∀ a b c, le a b = true → le b c = true → le a c = true
  total : ∀ a b, le a b = true ∨ le b a = true

variable {α β : Type*} (order : TotalPreorder α)

namespace TotalPreorder

def comap (order : TotalPreorder α) (key : β → α) : TotalPreorder β where
  le a b := order.le (key a) (key b)
  trans a b c := order.trans (key a) (key b) (key c)
  total a b := order.total (key a) (key b)

theorem refl (a : α) : order.le a a = true := (order.total a a).elim id id

def tied (a b : α) : Bool := order.le a b && order.le b a

theorem tied_iff (a b : α) : order.tied a b = true ↔ order.le a b = true ∧ order.le b a = true := by
  simp [tied]

theorem tied_refl (a : α) : order.tied a a = true := by
  simp [tied, order.refl a]

theorem tied_le (a b c : α) (first : order.tied a b = true) (second : order.tied a c = true) :
    order.le b c = true := by
  rw [tied_iff] at first second
  exact order.trans b a c first.2 second.1

end TotalPreorder

/-- What a stable sort promises: the same elements, in order, and every class of
ties in the order of its input. -/
structure IsStableSort (input output : List α) : Prop where
  perm : output.Perm input
  ordered : output.Pairwise (fun a b => order.le a b = true)
  stable : ∀ a, output.filter (order.tied a) = input.filter (order.tied a)

def orderBy (input : List α) : List α :=
  input.insertionSort (fun a b => order.le a b = true)

theorem orderBy_perm (input : List α) : (orderBy order input).Perm input :=
  List.perm_insertionSort _ input

theorem orderBy_ordered (input : List α) :
    (orderBy order input).Pairwise (fun a b => order.le a b = true) := by
  have total : Std.Total (fun a b => order.le a b = true) := ⟨order.total⟩
  have trans : IsTrans α (fun a b => order.le a b = true) := ⟨order.trans⟩
  exact List.pairwise_insertionSort _ input

/-- A class of ties is already in order, hence survives sorting as a sublist;
the permutation leaves room for nothing else. -/
theorem orderBy_stable (input : List α) (a : α) :
    (orderBy order input).filter (order.tied a) = input.filter (order.tied a) := by
  have total : Std.Total (fun a b => order.le a b = true) := ⟨order.total⟩
  have trans : IsTrans α (fun a b => order.le a b = true) := ⟨order.trans⟩
  have tiesOrdered : (input.filter (order.tied a)).Pairwise (fun b c => order.le b c = true) := by
    apply List.pairwise_of_forall_mem_list
    intro b first c second
    exact order.tied_le a b c (List.mem_filter.mp first).2 (List.mem_filter.mp second).2
  have kept : (input.filter (order.tied a)).Sublist (orderBy order input) :=
    List.sublist_insertionSort tiesOrdered List.filter_sublist
  have inside : (input.filter (order.tied a)).Sublist
      ((orderBy order input).filter (order.tied a)) := by
    simpa only [List.filter_filter, Bool.and_self] using kept.filter (order.tied a)
  have sameLength : ((orderBy order input).filter (order.tied a)).length =
      (input.filter (order.tied a)).length :=
    ((orderBy_perm order input).filter _).length_eq
  exact (inside.eq_of_length sameLength.symm).symm

theorem orderBy_isStableSort (input : List α) : IsStableSort order input (orderBy order input) :=
  ⟨orderBy_perm order input, orderBy_ordered order input, orderBy_stable order input⟩

theorem ordered_eq (left right : List α)
    (leftOrdered : left.Pairwise (fun a b => order.le a b = true))
    (rightOrdered : right.Pairwise (fun a b => order.le a b = true))
    (ties : ∀ a, left.filter (order.tied a) = right.filter (order.tied a)) :
    left = right := by
  induction left generalizing right with
  | nil =>
      cases right with
      | nil => rfl
      | cons b right =>
          have absent := ties b
          simp [order.tied_refl] at absent
  | cons a left ih =>
      cases right with
      | nil =>
          have absent := ties a
          simp [order.tied_refl] at absent
      | cons b right =>
          have bFirst : order.le b a = true := by
            have present : a ∈ (b :: right).filter (order.tied a) := by
              rw [← ties a]
              simp [order.tied_refl]
            rcases List.mem_cons.mp (List.mem_filter.mp present).1 with same | later
            · rw [same]
              exact order.refl b
            · exact List.rel_of_pairwise_cons rightOrdered later
          have aFirst : order.le a b = true := by
            have present : b ∈ (a :: left).filter (order.tied b) := by
              rw [ties b]
              simp [order.tied_refl]
            rcases List.mem_cons.mp (List.mem_filter.mp present).1 with same | later
            · rw [same]
              exact order.refl a
            · exact List.rel_of_pairwise_cons leftOrdered later
          have headTied : order.tied a b = true := (order.tied_iff a b).mpr ⟨aFirst, bFirst⟩
          have heads := ties a
          simp only [List.filter_cons, order.tied_refl, headTied, if_true, List.cons.injEq] at heads
          rcases heads with ⟨rfl, _⟩
          have tails : left = right := by
            apply ih right leftOrdered.of_cons rightOrdered.of_cons
            intro c
            have whole := ties c
            simp only [List.filter_cons] at whole
            split at whole
            · exact (List.cons.inj whole).2
            · exact whole
          rw [tails]

/-- The three promises leave a single output, so nothing below depends on which
stable algorithm the database runs. -/
theorem stableSort_unique (input output : List α) (sorted : IsStableSort order input output) :
    output = orderBy order input := by
  apply ordered_eq order output _ sorted.ordered (orderBy_ordered order input)
  intro a
  rw [sorted.stable, orderBy_stable]

theorem isStableSort_filter (input output : List α) (keep : α → Bool)
    (sorted : IsStableSort order input output) :
    IsStableSort order (input.filter keep) (output.filter keep) where
  perm := sorted.perm.filter keep
  ordered := sorted.ordered.sublist List.filter_sublist
  stable a := by
    rw [List.filter_comm, sorted.stable, List.filter_comm]

theorem orderBy_filter (input : List α) (keep : α → Bool) :
    orderBy order (input.filter keep) = (orderBy order input).filter keep :=
  (stableSort_unique order _ _
    (isStableSort_filter order input _ keep (orderBy_isStableSort order input))).symm

end StableSort
