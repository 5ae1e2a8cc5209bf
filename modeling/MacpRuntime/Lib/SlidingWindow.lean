import Mathlib.Algebra.Order.Group.Nat
import Mathlib.Data.List.TakeWhile

/-!
A sliding window over a growing list of times: a queue holds those that may still count.  At a given
time it `Tracks` the accepted times: the others are too old to meet a later one in a window, and no
window holds more than the limit.
-/

namespace SlidingWindow

/-- How many of the times lie in the closed window of width `W` that begins at `t`. -/
def count (W t : ℕ) (times : List ℕ) : ℕ := times.countP fun x => t ≤ x && x ≤ t + W

variable {W limit now : ℕ} {times queue : List ℕ}

/-- The queue keeps track of the accepted times. -/
structure Tracks (W limit now : ℕ) (times queue : List ℕ) : Prop where
  past : ∀ x ∈ queue, x ≤ now
  sorted : queue.Pairwise (· ≤ ·)
  dropped : ∃ old, times = old ++ queue ∧ ∀ x ∈ old, x + W < now
  bounded : ∀ t, count W t times ≤ limit

lemma Tracks.nil : Tracks W limit now [] [] where
  past := fun _ h => absurd h List.not_mem_nil
  sorted := .nil
  dropped := ⟨[], rfl, fun _ h => absurd h List.not_mem_nil⟩
  bounded := fun _ => Nat.zero_le _

section

variable (h : Tracks W limit now times queue)

include h

/-- Time passes. -/
lemma Tracks.mono {later : ℕ} (hle : now ≤ later) : Tracks W limit later times queue := by
  obtain ⟨old, hsplit, hold⟩ := h.dropped
  exact ⟨fun x hx => (h.past x hx).trans hle, h.sorted,
    ⟨old, hsplit, fun x hx => (hold x hx).trans_le hle⟩, h.bounded⟩

/-- Old times are dropped off the front. -/
lemma Tracks.prune : Tracks W limit now times (queue.dropWhile fun x => W < now - x) := by
  obtain ⟨old, hsplit, hold⟩ := h.dropped
  have hsub : (queue.dropWhile fun x => decide (W < now - x)).Sublist queue :=
    List.dropWhile_sublist _
  refine ⟨fun x hx => h.past x (hsub.subset hx), h.sorted.sublist hsub,
    ⟨old ++ queue.takeWhile fun x => decide (W < now - x), ?_, fun x hx => ?_⟩, h.bounded⟩
  · rw [List.append_assoc, List.takeWhile_append_dropWhile, hsplit]
  · rcases List.mem_append.mp hx with hx | hx
    · exact hold x hx
    · have hlt := List.mem_takeWhile_imp hx
      simp only [decide_eq_true_eq] at hlt
      omega

/-- A queue whose last time is old is dropped as a whole. -/
lemma Tracks.clear (hstale : ∀ x ∈ queue.getLast?, W < now - x) : Tracks W limit now times [] := by
  obtain ⟨old, hsplit, hold⟩ := h.dropped
  refine ⟨fun _ hx => absurd hx List.not_mem_nil, .nil,
    ⟨times, (List.append_nil _).symm, fun x hx => ?_⟩, h.bounded⟩
  rw [hsplit] at hx
  rcases List.mem_append.mp hx with hx | hx
  · exact hold x hx
  · -- the last time is the latest
    have hne := List.ne_nil_of_mem hx
    have hlast := hstale _ (List.getLast?_eq_some_getLast hne)
    have hle : x ≤ queue.getLast hne := by
      rcases List.mem_iff_getElem.mp hx with ⟨i, hi, rfl⟩
      rw [List.getLast_eq_getElem]
      rcases Nat.lt_or_ge i (queue.length - 1) with hlt | hge
      · exact List.pairwise_iff_getElem.mp h.sorted i (queue.length - 1) hi (by omega) hlt
      · exact le_of_eq (by congr 1; omega)
    omega

/-- A time is accepted while the queue is not full. -/
lemma Tracks.push (hlength : queue.length < limit) :
    Tracks W limit now (times ++ [now]) (queue ++ [now]) := by
  obtain ⟨old, hsplit, hold⟩ := h.dropped
  refine ⟨fun x hx => ?_, ?_, ⟨old, by rw [hsplit, List.append_assoc], hold⟩, fun t => ?_⟩
  · rcases List.mem_append.mp hx with hx | hx
    · exact h.past x hx
    · exact le_of_eq (List.mem_singleton.mp hx)
  · refine List.pairwise_append.mpr ⟨h.sorted, List.pairwise_singleton _ _, fun x hx y hy => ?_⟩
    rw [List.mem_singleton.mp hy]
    exact h.past x hx
  · have hbound := h.bounded t
    unfold count at hbound ⊢
    rw [List.countP_append, List.countP_singleton]
    split_ifs with hin
    · -- a window that holds `now` holds no dropped time
      have hnone : (old.countP fun x => decide (t ≤ x) && decide (x ≤ t + W)) = 0 := by
        rw [List.countP_eq_zero]
        intro x hx
        have hlt := hold x hx
        simp only [Bool.and_eq_true, decide_eq_true_eq] at hin ⊢
        omega
      have hqueue := List.countP_le_length (l := queue)
        (p := fun x => decide (t ≤ x) && decide (x ≤ t + W))
      rw [hsplit, List.countP_append, hnone]
      omega
    · exact hbound

end

end SlidingWindow
