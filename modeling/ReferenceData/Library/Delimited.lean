import Mathlib.Data.List.Basic

namespace Delimited

variable {α : Type*} [DecidableEq α] (sep : α)

def join (pieces : List (List α)) : List α := [sep].intercalate pieces

/-- Splitting which drops the empty pieces. -/
def splitNonempty (text : List α) : List (List α) :=
  (text.splitOn sep).filter (fun piece => !piece.isEmpty)

def Representable (pieces : List (List α)) : Prop :=
  ∀ piece ∈ pieces, piece ≠ [] ∧ sep ∉ piece

/-- No separator at either end and no two in a row. -/
def Tight (text : List α) : Prop :=
  text.head? ≠ some sep ∧ text.getLast? ≠ some sep ∧ ¬ [sep, sep] <:+: text

theorem splitOn_cons_sep (text : List α) : (sep :: text).splitOn sep = [] :: text.splitOn sep := by
  rw [List.splitOn_cons_eq_if_modifyHead]
  simp

theorem splitOn_cons_other (letter : α) (text : List α) (other : letter ≠ sep) :
    ∃ piece pieces, text.splitOn sep = piece :: pieces ∧
      (letter :: text).splitOn sep = (letter :: piece) :: pieces := by
  obtain ⟨piece, pieces, split⟩ := List.exists_cons_of_ne_nil (List.splitOn_ne_nil sep text)
  refine ⟨piece, pieces, split, ?_⟩
  rw [List.splitOn_cons_eq_if_modifyHead, split]
  simp [other]

theorem sep_not_mem_piece (text : List α) : ∀ piece ∈ text.splitOn sep, sep ∉ piece := by
  induction text with
  | nil => simp
  | cons letter text ih =>
      intro piece member
      by_cases atSep : letter = sep
      · subst letter
        rw [splitOn_cons_sep, List.mem_cons] at member
        rcases member with rfl | member
        · exact List.not_mem_nil
        · exact ih piece member
      · obtain ⟨first, rest, split, extended⟩ := splitOn_cons_other sep letter text atSep
        rw [extended, List.mem_cons] at member
        rcases member with rfl | member
        · have clean := ih first (by simp [split])
          simp [clean, Ne.symm atSep]
        · exact ih piece (by simp [split, member])

theorem splitNonempty_representable (text : List α) :
    Representable sep (splitNonempty sep text) := by
  intro piece member
  obtain ⟨inside, nonempty⟩ := List.mem_filter.mp member
  exact ⟨by simpa using nonempty, sep_not_mem_piece sep text piece inside⟩

theorem splitNonempty_join (pieces : List (List α)) (representable : Representable sep pieces) :
    splitNonempty sep (join sep pieces) = pieces := by
  by_cases empty : pieces = []
  · subst pieces
    simp [splitNonempty, join]
  · have clean : ∀ piece ∈ pieces, sep ∉ piece := fun piece member => (representable piece member).2
    rw [splitNonempty, join, List.splitOn_intercalate sep clean empty]
    apply List.filter_eq_self.mpr
    intro piece member
    simpa using (representable piece member).1

theorem splitNonempty_join_iff (pieces : List (List α)) :
    splitNonempty sep (join sep pieces) = pieces ↔ Representable sep pieces := by
  constructor
  · intro returned
    rw [← returned]
    exact splitNonempty_representable sep _
  · exact splitNonempty_join sep pieces

theorem splitNonempty_join_splitNonempty (text : List α) :
    splitNonempty sep (join sep (splitNonempty sep text)) = splitNonempty sep text :=
  splitNonempty_join sep _ (splitNonempty_representable sep text)

theorem tails_nonempty_iff (text : List α) :
    (∀ piece ∈ (text.splitOn sep).tail, piece ≠ []) ↔
      text.getLast? ≠ some sep ∧ ¬ [sep, sep] <:+: text := by
  induction text with
  | nil => simp
  | cons letter text ih =>
      by_cases atSep : letter = sep
      · subst letter
        rw [splitOn_cons_sep, List.tail_cons, List.infix_cons_iff, List.cons_prefix_cons]
        cases text with
        | nil => simp
        | cons next text =>
            by_cases nextSep : next = sep
            · subst next
              simp [splitOn_cons_sep]
            · obtain ⟨first, rest, split, extended⟩ := splitOn_cons_other sep next text nextSep
              rw [extended] at ih ⊢
              have headNonempty : next :: first ≠ [] := List.cons_ne_nil _ _
              simp only [List.tail_cons] at ih
              simp [ih, Ne.symm nextSep]
      · obtain ⟨first, rest, split, extended⟩ := splitOn_cons_other sep letter text atSep
        rw [split] at ih
        rw [extended, List.tail_cons, List.infix_cons_iff, List.cons_prefix_cons]
        simp only [List.tail_cons] at ih
        rw [ih]
        cases text with
        | nil => simp [atSep]
        | cons next text => simp [Ne.symm atSep]

theorem pieces_nonempty_iff (text : List α) :
    (∀ piece ∈ text.splitOn sep, piece ≠ []) ↔ text ≠ [] ∧ Tight sep text := by
  cases text with
  | nil => simp
  | cons letter text =>
      by_cases atSep : letter = sep
      · subst letter
        simp [splitOn_cons_sep, Tight]
      · obtain ⟨first, rest, split, extended⟩ := splitOn_cons_other sep letter text atSep
        have tails := tails_nonempty_iff sep (letter :: text)
        rw [extended] at tails ⊢
        simp only [List.tail_cons] at tails
        simp [Tight, tails, atSep]

/-- The texts which a join produces are the empty text and the tight ones. -/
theorem join_splitNonempty_iff (text : List α) :
    join sep (splitNonempty sep text) = text ↔ text = [] ∨ Tight sep text := by
  constructor
  · intro returned
    by_cases none : splitNonempty sep text = []
    · left
      rw [none] at returned
      simpa [join] using returned.symm
    · right
      have representable := splitNonempty_representable sep text
      have clean : ∀ piece ∈ splitNonempty sep text, sep ∉ piece :=
        fun piece member => (representable piece member).2
      have resplit : text.splitOn sep = splitNonempty sep text := by
        conv_lhs => rw [← returned]
        exact List.splitOn_intercalate sep clean none
      have nonempty : ∀ piece ∈ text.splitOn sep, piece ≠ [] := by
        intro piece member
        rw [resplit] at member
        exact (representable piece member).1
      exact ((pieces_nonempty_iff sep text).mp nonempty).2
  · intro clean
    rcases clean with rfl | tight
    · simp [splitNonempty, join]
    · by_cases empty : text = []
      · subst text
        simp [splitNonempty, join]
      · have nonempty := (pieces_nonempty_iff sep text).mpr ⟨empty, tight⟩
        have kept : splitNonempty sep text = text.splitOn sep := by
          apply List.filter_eq_self.mpr
          intro piece member
          simpa using nonempty piece member
        rw [kept]
        exact List.intercalate_splitOn sep

omit [DecidableEq α] in
theorem join_sublist (kept pieces : List (List α)) (part : kept.Sublist pieces) :
    (join sep kept).Sublist (join sep pieces) := by
  induction part with
  | slnil => exact List.Sublist.refl _
  | @cons kept pieces piece _ ih =>
      by_cases last : pieces = []
      · subst last
        have none : join sep kept = [] := List.sublist_nil.mp ih
        rw [none]
        exact List.nil_sublist _
      · rw [join, join, List.intercalate_cons_of_ne_nil last]
        exact ih.trans (List.sublist_append_right _ _)
  | @cons_cons kept pieces piece part ih =>
      by_cases last : kept = []
      · subst last
        rw [join, List.intercalate_singleton]
        cases pieces with
        | nil => simp [join]
        | cons next pieces =>
            rw [join, List.intercalate_cons_cons, List.append_assoc]
            exact List.sublist_append_left _ _
      · have more : pieces ≠ [] := by
          intro none
          subst none
          exact last (List.sublist_nil.mp part)
        rw [join, join, List.intercalate_cons_of_ne_nil last, List.intercalate_cons_of_ne_nil more]
        exact ih.append_left _

theorem join_splitNonempty_sublist (text : List α) :
    (join sep (splitNonempty sep text)).Sublist text := by
  have fewer := join_sublist sep (splitNonempty sep text) (text.splitOn sep) List.filter_sublist
  rw [join, join, List.intercalate_splitOn sep] at fewer
  exact fewer

end Delimited
