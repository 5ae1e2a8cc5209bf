import Mathlib.Data.List.Nodup
import Std.Data.ExtTreeSet

/-!
Handing a reader over from a replayed history to a live feed.

The feed is subscribed to before the history is read, so what was added in between comes twice: once
replayed and once from the feed.  A filter armed with the keys of the replay drops the second
copies; the first item it does not know disarms it.  A feed that begins with known items and goes on
with unknown ones is cut exactly between the two, and only then (`live_eq_iff`).
-/

namespace Resume

open Std

variable {α κ : Type*} [Ord κ] [Std.TransOrd κ]

/-! ### Ordinals -/

section Ordinals

/-- The items with consecutive ordinals, the first being `n`. -/
def numberFrom (n : ℕ) : List α → List (ℕ × α)
  | [] => []
  | x :: xs => (n, x) :: numberFrom (n + 1) xs

@[simp] lemma numberFrom_nil (n : ℕ) : numberFrom n ([] : List α) = [] := rfl

@[simp] lemma numberFrom_cons (n : ℕ) (x : α) (xs : List α) :
    numberFrom n (x :: xs) = (n, x) :: numberFrom (n + 1) xs := rfl

@[simp] lemma length_numberFrom (n : ℕ) (xs : List α) : (numberFrom n xs).length = xs.length := by
  induction xs generalizing n with
  | nil => rfl
  | cons x xs ih => rw [numberFrom_cons, List.length_cons, ih, List.length_cons]

lemma numberFrom_append (n : ℕ) (xs ys : List α) :
    numberFrom n (xs ++ ys) = numberFrom n xs ++ numberFrom (n + xs.length) ys := by
  induction xs generalizing n with
  | nil => rfl
  | cons x xs ih =>
    rw [List.cons_append, numberFrom_cons, ih, numberFrom_cons, List.cons_append,
      List.length_cons, Nat.add_assoc, Nat.add_comm 1]

lemma map_snd_numberFrom (n : ℕ) (xs : List α) : (numberFrom n xs).map (·.2) = xs := by
  induction xs generalizing n with
  | nil => rfl
  | cons x xs ih => rw [numberFrom_cons, List.map_cons, ih]

lemma numberFrom_map {β : Type*} (f : α → β) (n : ℕ) (xs : List α) :
    numberFrom n (xs.map f) = (numberFrom n xs).map fun p => (p.1, f p.2) := by
  induction xs generalizing n with
  | nil => rfl
  | cons x xs ih => rw [List.map_cons, numberFrom_cons, ih, numberFrom_cons, List.map_cons]

/-- An ordinal names the item at its place. -/
lemma mem_numberFrom {n i : ℕ} {x : α} {xs : List α} (h : (i, x) ∈ numberFrom n xs) :
    n ≤ i ∧ xs[i - n]? = some x := by
  induction xs generalizing n with
  | nil => cases h
  | cons y xs ih =>
    rcases List.mem_cons.mp h with heq | htail
    · cases heq
      simp
    · obtain ⟨hle, hget⟩ := ih htail
      refine ⟨by omega, ?_⟩
      rw [show i - n = (i - (n + 1)) + 1 by omega, List.getElem?_cons_succ, hget]

/-- The items above a position keep their ordinals. -/
lemma filter_numberFrom {n k : ℕ} (hle : n ≤ k + 1) (xs : List α) :
    (numberFrom n xs).filter (fun p => k < p.1) = numberFrom (k + 1) (xs.drop (k + 1 - n)) := by
  induction xs generalizing n with
  | nil => simp
  | cons x xs ih =>
    rcases Nat.lt_or_ge k n with hlt | hge
    · -- nothing is dropped any more
      have hn : n = k + 1 := by omega
      subst hn
      rw [List.filter_eq_self.mpr, Nat.sub_self, List.drop_zero]
      intro p hp
      exact decide_eq_true (Nat.lt_of_succ_le (mem_numberFrom hp).1)
    · rw [numberFrom_cons, List.filter_cons_of_neg (by simpa using hge), ih (by omega),
        show k + 1 - n = (k + 1 - (n + 1)) + 1 by omega, List.drop_succ_cons]

end Ordinals

/-! ### The filter -/

/-- Whether an item is dropped, and the filter it leaves: a known key is spent, an unknown one
disarms. -/
def skip (armed : Option (ExtTreeSet κ)) (k : κ) : Bool × Option (ExtTreeSet κ) :=
  match armed with
  | none => (false, none)
  | some seen => if k ∈ seen then (true, some (seen.erase k)) else (false, none)

/-- An item that passes leaves the filter disarmed. -/
lemma skip_passed {armed armed' : Option (ExtTreeSet κ)} {k : κ}
    (h : skip armed k = (false, armed')) : armed' = none := by
  cases armed with
  | none => exact (congrArg Prod.snd h).symm
  | some seen =>
    rw [skip] at h
    split_ifs at h
    · cases h
    · exact (congrArg Prod.snd h).symm

/-- What passes of a feed. -/
def live (key : α → κ) : Option (ExtTreeSet κ) → List α → List α
  | _, [] => []
  | armed, x :: xs =>
    match skip armed (key x) with
    | (true, armed') => live key armed' xs
    | (false, armed') => x :: live key armed' xs

variable {key : α → κ} {seen : ExtTreeSet κ} {xs ys : List α}

@[simp] lemma live_none (xs : List α) : live key none xs = xs := by
  induction xs with
  | nil => rfl
  | cons x xs ih =>
    rw [live, skip]
    dsimp only
    rw [ih]

lemma length_live_le (armed : Option (ExtTreeSet κ)) (xs : List α) :
    (live key armed xs).length ≤ xs.length := by
  induction xs generalizing armed with
  | nil => exact Nat.le_refl _
  | cons x xs ih =>
    rw [live]
    rcases skip armed (key x) with ⟨_ | _, armed'⟩
    · exact Nat.succ_le_succ (ih armed')
    · exact Nat.le_succ_of_le (ih armed')

lemma live_of_known {x : α} (h : key x ∈ seen) :
    live key (some seen) (x :: xs) = live key (some (seen.erase (key x))) xs := by
  rw [live, skip, if_pos h]

lemma live_of_unknown {x : α} (h : key x ∉ seen) : live key (some seen) (x :: xs) = x :: xs := by
  rw [live, skip, if_neg h]
  dsimp only
  rw [live_none]

/-- A filter that knows nothing of the feed lets all of it pass. -/
lemma live_of_fresh (h : ∀ y ∈ ys, key y ∉ seen) : live key (some seen) ys = ys := by
  cases ys with
  | nil => rfl
  | cons y ys => exact live_of_unknown (h y List.mem_cons_self)

variable [Std.LawfulEqOrd κ]

/-- **The handover**: known items with distinct keys are dropped, each once, and what follows
them passes. -/
theorem live_handover (hknown : ∀ x ∈ xs, key x ∈ seen) (hnodup : (xs.map key).Nodup)
    (hfresh : ∀ y ∈ ys, key y ∉ seen) : live key (some seen) (xs ++ ys) = ys := by
  induction xs generalizing seen with
  | nil => exact live_of_fresh hfresh
  | cons x xs ih =>
    obtain ⟨hx, hrest⟩ := List.nodup_cons.mp hnodup
    rw [List.cons_append, live_of_known (hknown x List.mem_cons_self)]
    refine ih (fun x' hx' => ?_) hrest (fun y hy hmem => ?_)
    · rw [ExtTreeSet.mem_erase]
      refine ⟨fun heq => hx ?_, hknown x' (List.mem_cons_of_mem _ hx')⟩
      rw [Std.LawfulEqOrd.eq_of_compare heq]
      exact List.mem_map_of_mem hx'
    · exact hfresh y hy (ExtTreeSet.mem_of_mem_erase hmem)

/-- An armed filter cuts the feed there only if it knows everything before. -/
lemma live_some_eq_iff (hnodup : (xs.map key).Nodup) (hfresh : ∀ y ∈ ys, key y ∉ seen) :
    live key (some seen) (xs ++ ys) = ys ↔ ∀ x ∈ xs, key x ∈ seen := by
  refine ⟨fun hcut => ?_, fun hknown => live_handover hknown hnodup hfresh⟩
  induction xs generalizing seen with
  | nil => exact fun x hx => absurd hx List.not_mem_nil
  | cons x xs ih =>
    obtain ⟨_, hrest⟩ := List.nodup_cons.mp hnodup
    by_cases hx : key x ∈ seen
    · rw [List.cons_append, live_of_known hx] at hcut
      have hknown := ih hrest
        (fun y hy hmem => hfresh y hy (ExtTreeSet.mem_of_mem_erase hmem)) hcut
      intro x' hx'
      rcases List.mem_cons.mp hx' with rfl | htail
      · exact hx
      · exact ExtTreeSet.mem_of_mem_erase (hknown x' htail)
    · rw [List.cons_append, live_of_unknown hx] at hcut
      have hlen := congrArg List.length hcut
      simp only [List.length_cons, List.length_append] at hlen
      omega

/-- **The filter cuts the feed exactly there if and only if** there is nothing to drop or it is
armed with everything before. -/
theorem live_eq_iff {armed : Option (ExtTreeSet κ)} (hnodup : (xs.map key).Nodup)
    (hfresh : ∀ seen, armed = some seen → ∀ y ∈ ys, key y ∉ seen) :
    live key armed (xs ++ ys) = ys
      ↔ xs = [] ∨ ∃ seen, armed = some seen ∧ ∀ x ∈ xs, key x ∈ seen := by
  cases armed with
  | none =>
    rw [live_none]
    constructor
    · exact fun h => .inl (List.append_left_eq_self.mp h)
    · rintro (rfl | ⟨seen, hseen, _⟩)
      · rfl
      · cases hseen
  | some seen =>
    rw [live_some_eq_iff hnodup (hfresh seen rfl)]
    constructor
    · exact fun h => .inr ⟨seen, rfl, h⟩
    · rintro (rfl | ⟨seen', hseen, hknown⟩)
      · exact fun x hx => absurd hx List.not_mem_nil
      · cases hseen
        exact hknown

end Resume
