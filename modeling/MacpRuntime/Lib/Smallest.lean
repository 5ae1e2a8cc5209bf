import Mathlib.Data.List.Sort
import Mathlib.Tactic

/-!
The smallest elements of a collection, selected in one pass by a heap of bounded size, which is held
as the list of its elements in ascending order.  **The pass leaves the first elements of the sorted
collection**, in whatever order it visits them (`foldl_push`).
-/

namespace Smallest

variable {α : Type*} (r : α → α → Prop) [DecidableRel r]

/-- Push on a heap that keeps at most `limit` elements. -/
def push (limit : ℕ) (heap : List α) (x : α) : List α :=
  if limit < (heap.orderedInsert r x).length then (heap.orderedInsert r x).dropLast
  else heap.orderedInsert r x

lemma push_of_length_le {limit : ℕ} {heap : List α} (h : heap.length ≤ limit) (x : α) :
    push r limit heap x = (heap.orderedInsert r x).take limit := by
  have hlen : (heap.orderedInsert r x).length = heap.length + 1 :=
    List.orderedInsert_length r heap x
  rw [push]
  split
  · rw [List.dropLast_eq_take, show (heap.orderedInsert r x).length - 1 = limit by omega]
  · rw [List.take_of_length_le (by omega)]

/-- What is cut off a sorted list plays no part in the beginning of a later insertion. -/
lemma take_orderedInsert_take (x : α) (l : List α) (k : ℕ) :
    ((l.take k).orderedInsert r x).take k = (l.orderedInsert r x).take k := by
  induction l generalizing k with
  | nil => rw [List.take_nil]
  | cons y l ih =>
    cases k with
    | zero => rw [List.take_zero, List.take_zero]
    | succ k =>
      rw [List.take_succ_cons, List.orderedInsert, List.orderedInsert]
      split
      · have htake : (y :: l.take k).take k = (y :: l).take k := by
          rw [← List.take_succ_cons, List.take_take, Nat.min_eq_left (Nat.le_succ k)]
        rw [List.take_succ_cons, List.take_succ_cons, htake]
      · rw [List.take_succ_cons, List.take_succ_cons, ih]

/-- The pass keeps the beginning of what a sort by insertion would have. -/
lemma foldl_push_take (limit : ℕ) (xs l : List α) :
    xs.foldl (push r limit) (l.take limit)
      = (xs.foldl (fun heap x => heap.orderedInsert r x) l).take limit := by
  induction xs generalizing l with
  | nil => rfl
  | cons x xs ih =>
    rw [List.foldl_cons, List.foldl_cons, push_of_length_le r (List.length_take_le limit l),
      take_orderedInsert_take, ih]

section Sorted

variable [Std.Total r] [IsTrans α r]

lemma foldl_orderedInsert (xs l : List α) (hl : l.Pairwise r) :
    (xs.foldl (fun heap x => heap.orderedInsert r x) l).Pairwise r
      ∧ (xs.foldl (fun heap x => heap.orderedInsert r x) l).Perm (l ++ xs) := by
  induction xs generalizing l with
  | nil => exact ⟨hl, by rw [List.append_nil, List.foldl_nil]⟩
  | cons x xs ih =>
    obtain ⟨hsorted, hperm⟩ := ih (l.orderedInsert r x) (hl.orderedInsert x l)
    refine ⟨hsorted, hperm.trans ?_⟩
    exact ((List.perm_orderedInsert r x l).append_right xs).trans List.perm_middle.symm

/-- **The pass leaves the first elements of the sorted collection.** -/
theorem foldl_push [Std.Antisymm r] (limit : ℕ) {xs sorted : List α} (hsorted : sorted.Pairwise r)
    (hperm : sorted.Perm xs) : xs.foldl (push r limit) [] = sorted.take limit := by
  obtain ⟨hfold, hfoldPerm⟩ := foldl_orderedInsert r xs [] List.Pairwise.nil
  have heq := List.Perm.eq_of_pairwise (fun a b _ _ => Std.Antisymm.antisymm a b) hfold hsorted
    (hfoldPerm.trans (by rw [List.nil_append]; exact hperm.symm))
  have h := foldl_push_take r limit xs []
  rw [List.take_nil, heq] at h
  exact h

end Sorted

end Smallest
