import Mathlib.Data.List.Forall2
import Mathlib.Order.Bounds.Basic
import Mathlib.Order.CompletePartialOrder
import Mathlib.Order.Interval.Finset.Nat
import Mathlib.Order.Interval.Set.Disjoint

set_option autoImplicit false

/- Extents of a linear order that lie apart: the least start from a position on,
one extent grown in a table of them, and what a table leaves free. -/
namespace Extents

section Apart

variable {α : Type} [LinearOrder α]

/-- The positions from `start` on that come before `stop`. -/
structure Extent (α : Type) [LinearOrder α] where
  start : α
  stop : α
  ordered : start < stop

def Extent.positions (extent : Extent α) : Set α := Set.Ico extent.start extent.stop

/-- One of the two ends before the other starts. -/
def Apart (first second : Extent α) : Prop :=
  first.stop ≤ second.start ∨ second.stop ≤ first.start

theorem Apart.symm {first second : Extent α} (apart : Apart first second) : Apart second first :=
  Or.symm apart

theorem apart_iff_disjoint (first second : Extent α) :
    Apart first second ↔ Disjoint first.positions second.positions := by
  have firstOrdered := first.ordered
  have secondOrdered := second.ordered
  unfold Apart Extent.positions
  rw [Set.Ico_disjoint_Ico, min_le_iff, le_max_iff, le_max_iff]
  constructor
  · rintro (before | behind)
    · exact Or.inl (Or.inr before)
    · exact Or.inr (Or.inl behind)
  · rintro ((empty | before) | (behind | empty))
    · exact absurd empty (not_le.mpr firstOrdered)
    · exact Or.inl before
    · exact Or.inr behind
    · exact absurd empty (not_le.mpr secondOrdered)

/-- What starts at or behind the old end still starts at or behind the new one. -/
theorem Apart.grown {own grown other : Extent α} (apart : Apart own other)
    (start : grown.start = own.start)
    (clear : own.stop ≤ other.start → grown.stop ≤ other.start) : Apart grown other := by
  rcases apart with before | behind
  · exact Or.inl (clear before)
  · rw [← start] at behind
    exact Or.inr behind

end Apart

section LeastFrom

variable {α : Type} [LinearOrder α]

/-- The least of `bound` and the starts from `position` on, in one pass. -/
def leastFrom (bound position : α) (starts : List α) : α :=
  starts.foldl (fun least start => if position ≤ start ∧ start < least then start else least) bound

@[simp] theorem leastFrom_nil (bound position : α) : leastFrom bound position [] = bound := rfl

theorem leastFrom_cons (bound position start : α) (starts : List α) :
    leastFrom bound position (start :: starts) =
      leastFrom (if position ≤ start then min start bound else bound) position starts := by
  have step : (if position ≤ start ∧ start < bound then start else bound) =
      if position ≤ start then min start bound else bound := by
    by_cases from' : position ≤ start
    · rw [if_pos from']
      by_cases less : start < bound
      · rw [if_pos ⟨from', less⟩, min_eq_left less.le]
      · rw [if_neg fun both => less both.2, min_eq_right (not_lt.mp less)]
    · rw [if_neg from', if_neg fun both => from' both.1]
  rw [← step]
  rfl

theorem isLeast_leastFrom (bound position : α) (starts : List α) :
    IsLeast (insert bound {start | start ∈ starts ∧ position ≤ start})
      (leastFrom bound position starts) := by
  induction starts generalizing bound with
  | nil => simp [isLeast_singleton]
  | cons start starts ih =>
    obtain ⟨reached, least⟩ := ih (if position ≤ start then min start bound else bound)
    rw [leastFrom_cons]
    constructor
    · rcases reached with same | ⟨member, from'⟩
      · rw [same]
        by_cases here : position ≤ start
        · rw [if_pos here]
          rcases min_choice start bound with smaller | smaller
          · rw [smaller]
            exact Or.inr ⟨List.mem_cons_self, here⟩
          · rw [smaller]
            exact Or.inl rfl
        · rw [if_neg here]
          exact Or.inl rfl
      · exact Or.inr ⟨List.mem_cons_of_mem start member, from'⟩
    · have first : leastFrom (if position ≤ start then min start bound else bound) position starts ≤
          if position ≤ start then min start bound else bound := least (Or.inl rfl)
      rintro candidate (rfl | ⟨member, from'⟩)
      · refine first.trans ?_
        split
        · exact min_le_right start candidate
        · exact le_refl candidate
      · rcases List.mem_cons.mp member with rfl | later
        · rw [if_pos from'] at first ⊢
          exact first.trans (min_le_left candidate bound)
        · exact least (Or.inr ⟨later, from'⟩)

theorem leastFrom_le (bound position : α) (starts : List α) :
    leastFrom bound position starts ≤ bound :=
  (isLeast_leastFrom bound position starts).2 (Or.inl rfl)

theorem leastFrom_le_of_mem (bound position start : α) (starts : List α) (member : start ∈ starts)
    (from' : position ≤ start) : leastFrom bound position starts ≤ start :=
  (isLeast_leastFrom bound position starts).2 (Or.inr ⟨member, from'⟩)

/-- Looked for from a later position that it does not come before, it is the same. -/
theorem leastFrom_later (bound position later : α) (starts : List α) (forward : position ≤ later)
    (before : later ≤ leastFrom bound position starts) :
    leastFrom bound later starts = leastFrom bound position starts := by
  apply IsLeast.unique (isLeast_leastFrom bound later starts)
  obtain ⟨reached, least⟩ := isLeast_leastFrom bound position starts
  constructor
  · rcases reached with same | ⟨member, _⟩
    · exact Or.inl same
    · exact Or.inr ⟨member, before⟩
  · rintro candidate (rfl | ⟨member, from'⟩)
    · exact least (Or.inl rfl)
    · exact least (Or.inr ⟨member, forward.trans from'⟩)

end LeastFrom

section Table

variable {α : Type} [LinearOrder α] {Entry Key : Type} (key : Entry → Key)
  (extent : Entry → Extent α)

/-- No two entries have a key or a position in common. -/
def Separate (table : List Entry) : Prop :=
  table.Pairwise fun first second => key first ≠ key second ∧ Apart (extent first) (extent second)

variable {key extent}

/-- What holds of any two different entries. -/
theorem Separate.of_ne {table : List Entry} (separate : Separate key extent table)
    {first second : Entry} (firstIn : first ∈ table) (secondIn : second ∈ table)
    (different : first ≠ second) :
    key first ≠ key second ∧ Apart (extent first) (extent second) := by
  have symmetric : Std.Symm fun a b => key a ≠ key b ∧ Apart (extent a) (extent b) :=
    ⟨fun _ _ both => ⟨both.1.symm, both.2.symm⟩⟩
  exact List.Pairwise.forall separate firstIn secondIn different

theorem Separate.apart {table : List Entry} (separate : Separate key extent table)
    {first second : Entry} (firstIn : first ∈ table) (secondIn : second ∈ table)
    (other : key first ≠ key second) : Apart (extent first) (extent second) :=
  (separate.of_ne firstIn secondIn fun same => other (congrArg key same)).2

/-- A key names one entry. -/
theorem Separate.eq_of_key {table : List Entry} (separate : Separate key extent table)
    {first second : Entry} (firstIn : first ∈ table) (secondIn : second ∈ table)
    (same : key first = key second) : first = second := by
  by_contra different
  exact (separate.of_ne firstIn secondIn different).1 same

/-- One entry changed in place, and clear of all others. -/
theorem Separate.update {table : List Entry} (separate : Separate key extent table)
    (change : Entry → Entry) (changed : Key) (sameKey : ∀ entry, key (change entry) = key entry)
    (others : ∀ entry, key entry ≠ changed → change entry = entry)
    (clear : ∀ own ∈ table, ∀ other ∈ table, key own = changed → key other ≠ changed →
      Apart (extent (change own)) (extent other)) :
    Separate key extent (table.map change) := by
  unfold Separate
  rw [List.pairwise_map]
  apply separate.imp_of_mem
  intro first second firstIn secondIn both
  rw [sameKey, sameKey]
  refine ⟨both.1, ?_⟩
  by_cases firstIs : key first = changed
  · have secondNot : key second ≠ changed := fun is => both.1 (firstIs.trans is.symm)
    rw [others second secondNot]
    exact clear first firstIn second secondIn firstIs secondNot
  · rw [others first firstIs]
    by_cases secondIs : key second = changed
    · exact (clear second secondIn first firstIn secondIs firstIs).symm
    · rw [others second secondIs]
      exact both.2

end Table

/-- Tables related entry by entry, through a table between them. -/
theorem forall₂_compose {A B C : Type} {early : A → B → Prop} {late : B → C → Prop}
    {whole : A → C → Prop} (compose : ∀ a b c, early a b → late b c → whole a c)
    {before : List A} {between : List B} {after : List C} (first : List.Forall₂ early before between)
    (second : List.Forall₂ late between after) : List.Forall₂ whole before after := by
  induction first generalizing after with
  | nil =>
    cases second
    exact List.Forall₂.nil
  | cons here _ ih =>
    cases second with
    | cons there rest => exact List.Forall₂.cons (compose _ _ _ here there) (ih rest)

section Free

/-- The positions below `total` that no extent has. -/
def free (total : Nat) (extents : List (Extent Nat)) : Finset Nat :=
  (Finset.range total).filter fun n => ∀ extent ∈ extents, n < extent.start ∨ extent.stop ≤ n

end Free

end Extents
