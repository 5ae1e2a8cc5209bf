import Mathlib.Tactic

/-!
A clock that is paused now and then: a timeline is the list of its pauses, in order.

* `walk_isLeast`: **the walk over the pauses finds the first instant at which the clock has run for
  a given time**; `walk_append`: pauses that begin at or after that instant do not move it;
* `sweep_isLeast`: **over pauses that may overlap or end before they begin, the clamped walk finds
  the first instant before which enough time is covered by no pause**.
-/

namespace Timeline

variable {α : Type*}

/-! ### Pauses in order -/

/-- The end of the last pause, or `a` when there is none. -/
def lastEnd (a : α) : List (α × α) → α
  | [] => a
  | p :: ps => lastEnd p.2 ps

lemma lastEnd_append (a : α) (ps qs : List (α × α)) :
    lastEnd a (ps ++ qs) = lastEnd (lastEnd a ps) qs := by
  induction ps generalizing a with
  | nil => rfl
  | cons p ps ih => exact ih p.2

section Shape

variable [LinearOrder α]

/-- The pauses follow one another from `a` on. -/
def Ordered (a : α) : List (α × α) → Prop
  | [] => True
  | p :: ps => a ≤ p.1 ∧ p.1 ≤ p.2 ∧ Ordered p.2 ps

variable {a : α} {ps : List (α × α)}

lemma ordered_append {qs : List (α × α)} :
    Ordered a (ps ++ qs) ↔ Ordered a ps ∧ Ordered (lastEnd a ps) qs := by
  induction ps generalizing a with
  | nil => simp [Ordered, lastEnd]
  | cons p ps ih => simp only [List.cons_append, Ordered, lastEnd, ih, and_assoc]

/-- An ordered timeline is ordered from every earlier instant. -/
lemma Ordered.mono {b : α} (h : Ordered b ps) (hab : a ≤ b) : Ordered a ps := by
  cases ps with
  | nil => trivial
  | cons p ps => exact ⟨hab.trans h.1, h.2⟩

lemma Ordered.le_lastEnd (h : Ordered a ps) : a ≤ lastEnd a ps := by
  induction ps generalizing a with
  | nil => exact le_rfl
  | cons p ps ih =>
    obtain ⟨h₁, h₂, h₃⟩ := h
    exact (h₁.trans h₂).trans (ih h₃)

lemma Ordered.le_start (h : Ordered a ps) : ∀ p ∈ ps, a ≤ p.1 := by
  induction ps generalizing a with
  | nil => simp
  | cons p ps ih =>
    obtain ⟨h₁, h₂, h₃⟩ := h
    intro q hq
    rcases List.mem_cons.mp hq with rfl | hq
    · exact h₁
    · exact (h₁.trans h₂).trans (ih h₃ q hq)

end Shape

/-! ### Time -/

section Length

variable [CommRing α]

/-- The total length of the pauses. -/
def total : List (α × α) → α
  | [] => 0
  | p :: ps => (p.2 - p.1) + total ps

@[simp] lemma total_append (ps qs : List (α × α)) : total (ps ++ qs) = total ps + total qs := by
  induction ps with
  | nil => simp [total]
  | cons p ps ih => simp only [List.cons_append, total, ih]; ring

end Length

variable [CommRing α] [LinearOrder α]

/-- The time spent in pauses before `t`. -/
def pausedUntil (t : α) : List (α × α) → α
  | [] => 0
  | p :: ps => max 0 (min p.2 t - p.1) + pausedUntil t ps

/-- The time the clock has run between `a` and `t`. -/
def openUntil (a t : α) (ps : List (α × α)) : α := t - a - pausedUntil t ps

/-- The instant at which the clock, starting at `a`, has run for `d`. -/
def walk : List (α × α) → α → α → α
  | [], a, d => a + d
  | p :: ps, a, d => if d ≤ p.1 - a then a + d else walk ps p.2 (d - (p.1 - a))

/-- The walk over pauses that may overlap or end before they begin: an instant already passed
is not passed again. -/
def sweep : List (α × α) → α → α → α
  | [], a, d => a + d
  | p :: ps, a, d =>
    if d ≤ max (p.1 - a) 0 then a + d
    else sweep ps (max (max p.2 p.1) a) (d - max (p.1 - a) 0)

lemma pausedUntil_append (t : α) (ps qs : List (α × α)) :
    pausedUntil t (ps ++ qs) = pausedUntil t ps + pausedUntil t qs := by
  induction ps with
  | nil => simp [pausedUntil]
  | cons p ps ih => simp only [List.cons_append, pausedUntil, ih]; ring

variable [IsStrictOrderedRing α] {a t d : α} {ps qs : List (α × α)}

lemma Ordered.total_nonneg (h : Ordered a ps) : 0 ≤ total ps := by
  induction ps generalizing a with
  | nil => exact le_rfl
  | cons p ps ih =>
    obtain ⟨_, h₂, h₃⟩ := h
    have hrest := ih h₃
    simp only [total]
    linarith

/-! ### Time spent in pauses -/

lemma pausedUntil_nonneg (t : α) (ps : List (α × α)) : 0 ≤ pausedUntil t ps := by
  induction ps with
  | nil => exact le_rfl
  | cons p ps ih => exact add_nonneg (le_max_left _ _) ih

section

variable (h : Ordered a ps)

include h

/-- Nothing is spent in pauses that begin later. -/
lemma Ordered.pausedUntil_eq_zero (ht : t ≤ a) : pausedUntil t ps = 0 := by
  induction ps generalizing a with
  | nil => rfl
  | cons p ps ih =>
    obtain ⟨h₁, h₂, h₃⟩ := h
    have hmin : min p.2 t - p.1 ≤ 0 := by
      have := min_le_right p.2 t
      linarith
    rw [pausedUntil, max_eq_left hmin, zero_add]
    exact ih h₃ (ht.trans (h₁.trans h₂))

/-- No more is spent in pauses than has passed since they began. -/
lemma Ordered.pausedUntil_le (ht : a ≤ t) : pausedUntil t ps ≤ t - a := by
  induction ps generalizing a with
  | nil =>
    rw [pausedUntil]
    linarith
  | cons p ps ih =>
    obtain ⟨h₁, h₂, h₃⟩ := h
    rw [pausedUntil]
    rcases le_total p.2 t with hend | hend
    · have hrest := ih h₃ hend
      rw [min_eq_left hend, max_eq_right (by linarith)]
      linarith
    · rw [h₃.pausedUntil_eq_zero hend, min_eq_right hend, add_zero]
      exact max_le (by linarith) (by linarith)

/-- Once every pause is over, all of it has been spent. -/
lemma Ordered.pausedUntil_eq_total (ht : lastEnd a ps ≤ t) : pausedUntil t ps = total ps := by
  induction ps generalizing a with
  | nil => rfl
  | cons p ps ih =>
    obtain ⟨h₁, h₂, h₃⟩ := h
    have hend : p.2 ≤ t := h₃.le_lastEnd.trans ht
    rw [pausedUntil, total, ih h₃ ht, min_eq_left hend, max_eq_right (by linarith)]

/-! ### The walk -/

lemma Ordered.lt_walk (hd : 0 < d) : a < walk ps a d := by
  induction ps generalizing a d with
  | nil =>
    rw [walk]
    linarith
  | cons p ps ih =>
    obtain ⟨h₁, h₂, h₃⟩ := h
    rw [walk]
    split_ifs with hrun
    · linarith
    · have hrest := ih h₃ (by linarith : 0 < d - (p.1 - a))
      linarith

/-- **The walk is the threshold of the running time**: by `t` the clock has run for `d`
exactly when `t` is not before the instant the walk finds. -/
theorem le_openUntil_iff (hd : 0 < d) (ht : a ≤ t) : d ≤ openUntil a t ps ↔ walk ps a d ≤ t := by
  induction ps generalizing a d with
  | nil =>
    rw [openUntil, pausedUntil, walk]
    constructor <;> intro hle <;> linarith
  | cons p ps ih =>
    have hcons := h
    obtain ⟨h₁, h₂, h₃⟩ := h
    -- the timeline seen from its own first pause
    have hself : Ordered p.1 (p :: ps) := ⟨le_rfl, h₂, h₃⟩
    rw [walk]
    split_ifs with hrun
    · -- the instant falls before the first pause
      constructor
      · intro hle
        have hpaused := pausedUntil_nonneg t (p :: ps)
        rw [openUntil] at hle
        linarith
      · intro hle
        rw [openUntil]
        rcases le_total t p.1 with hstart | hstart
        · rw [hself.pausedUntil_eq_zero hstart]
          linarith
        · have hpaused := hself.pausedUntil_le hstart
          linarith
    · rw [not_le] at hrun
      have hrest : 0 < d - (p.1 - a) := by linarith
      rcases le_total p.2 t with hend | hend
      · -- the first pause is over: what remains is found after it
        rw [← ih h₃ hrest hend, openUntil, openUntil, pausedUntil, min_eq_left hend,
          max_eq_right (by linarith)]
        constructor <;> intro hle <;> linarith
      · -- before its end the clock has run for less than the run up to it
        have hwalk := h₃.lt_walk hrest
        constructor
        · intro hle
          exfalso
          rw [openUntil, pausedUntil, h₃.pausedUntil_eq_zero hend, min_eq_right hend] at hle
          have hmax := le_max_right 0 (t - p.1)
          linarith
        · intro hle
          linarith

/-- **The walk finds the first instant** at which the clock has run for `d`. -/
theorem walk_isLeast (hd : 0 < d) : IsLeast {t | a ≤ t ∧ d ≤ openUntil a t ps} (walk ps a d) := by
  have hle : a ≤ walk ps a d := (h.lt_walk hd).le
  refine ⟨⟨hle, (le_openUntil_iff h hd hle).mpr le_rfl⟩, ?_⟩
  rintro t ⟨ht, hrun⟩
  exact (le_openUntil_iff h hd ht).mp hrun

end

/-- Later pauses do not change what has run before them. -/
lemma openUntil_append {b : α} (hq : Ordered b qs) (ht : t ≤ b) :
    openUntil a t (ps ++ qs) = openUntil a t ps := by
  rw [openUntil, openUntil, pausedUntil_append, hq.pausedUntil_eq_zero ht, add_zero]

/-- **Pauses that begin at or after an instant do not decide whether it is late enough.** -/
theorem walk_append_le_iff (hp : Ordered a ps) (hd : 0 < d) (hend : lastEnd a ps ≤ t)
    (hq : Ordered t qs) : walk (ps ++ qs) a d ≤ t ↔ walk ps a d ≤ t := by
  have hat : a ≤ t := hp.le_lastEnd.trans hend
  have happ : Ordered a (ps ++ qs) := ordered_append.mpr ⟨hp, hq.mono hend⟩
  rw [← le_openUntil_iff happ hd hat, ← le_openUntil_iff hp hd hat, openUntil_append hq le_rfl]

/-- **Pauses that begin at or after the instant found do not move it.** -/
theorem walk_append (hp : Ordered a ps) (hd : 0 < d) (hend : lastEnd a ps ≤ t) (hq : Ordered t qs)
    (hwalk : walk ps a d ≤ t) : walk (ps ++ qs) a d = walk ps a d := by
  have happ : Ordered a (ps ++ qs) := ordered_append.mpr ⟨hp, hq.mono hend⟩
  -- before `t` the two timelines run alike, so each threshold bounds the other
  have hle := (hp.lt_walk hd).le
  have hle' := (happ.lt_walk hd).le
  have hthis : walk (ps ++ qs) a d ≤ walk ps a d := by
    rw [← le_openUntil_iff happ hd hle, openUntil_append hq hwalk, le_openUntil_iff hp hd hle]
  refine le_antisymm hthis ?_
  rw [← le_openUntil_iff hp hd hle', ← openUntil_append hq (hthis.trans hwalk),
    le_openUntil_iff happ hd hle']

/-! ### The clamped walk -/

/-- Over pauses in order there is nothing to clamp. -/
lemma Ordered.sweep_eq_walk (h : Ordered a ps) : sweep ps a d = walk ps a d := by
  induction ps generalizing a d with
  | nil => rfl
  | cons p ps ih =>
    obtain ⟨h₁, h₂, h₃⟩ := h
    rw [sweep, walk, max_eq_left (sub_nonneg.mpr h₁), max_eq_left h₂, max_eq_left (h₁.trans h₂),
      ih h₃]

/-- The clamped walk ends no earlier than the span it looks for. -/
lemma le_sweep (ps : List (α × α)) (a d : α) : a + d ≤ sweep ps a d := by
  induction ps generalizing a d with
  | nil => exact le_rfl
  | cons p ps ih =>
    rw [sweep]
    split_ifs with hrun
    · exact le_rfl
    · refine le_trans ?_ (ih _ _)
      have hend : p.1 ≤ max (max p.2 p.1) a := (le_max_right _ _).trans (le_max_left _ _)
      have hcur : a ≤ max (max p.2 p.1) a := le_max_right _ _
      rcases max_choice (p.1 - a) 0 with hmax | hmax <;> rw [hmax] <;> linarith

/-- The clamped walk is delayed by no more than the pauses it meets. -/
lemma sweep_le (ps : List (α × α)) (hd : 0 ≤ d) :
    sweep ps a d ≤ a + d + (ps.map fun p => max (p.2 - p.1) 0).sum := by
  induction ps generalizing a d with
  | nil => simp [sweep]
  | cons p ps ih =>
    have hwidth : 0 ≤ max (p.2 - p.1) 0 := le_max_right _ _
    rw [sweep, List.map_cons, List.sum_cons]
    split_ifs with hrun
    · have hrest : 0 ≤ (ps.map fun p => max (p.2 - p.1) 0).sum :=
        List.sum_nonneg (List.forall_mem_map.mpr fun _ _ => le_max_right _ _)
      linarith
    · refine (ih (by linarith [not_le.mp hrun])).trans ?_
      -- the jump over the pause is the run up to it and at most its width
      have hjump : max (max p.2 p.1) a ≤ a + max (p.1 - a) 0 + max (p.2 - p.1) 0 := by
        have h₁ : p.1 - a ≤ max (p.1 - a) 0 := le_max_left _ _
        have h₂ : 0 ≤ max (p.1 - a) 0 := le_max_right _ _
        have h₃ : p.2 - p.1 ≤ max (p.2 - p.1) 0 := le_max_left _ _
        refine max_le (max_le ?_ ?_) ?_ <;> linarith
      linarith

/-- Pauses that are over at the start do not matter. -/
lemma sweep_append_of_over (h : ∀ q ∈ qs, q.1 ≤ a ∧ q.2 ≤ a) (hd : 0 < d) :
    sweep (qs ++ ps) a d = sweep ps a d := by
  induction qs with
  | nil => rfl
  | cons q qs ih =>
    obtain ⟨⟨hstart, hend⟩, hrest⟩ := List.forall_mem_cons.mp h
    rw [List.cons_append, sweep, max_eq_right (sub_nonpos.mpr hstart), if_neg (not_le.mpr hd),
      max_eq_right (max_le hend hstart), sub_zero, ih hrest]

/-! ### Uncovered time -/

/-- The instants from `a` on and before `t` that no pause covers; each stands for the unit of time
that begins there. -/
noncomputable def uncovered (ps : List (ℤ × ℤ)) (a t : ℤ) : Finset ℤ :=
  (Finset.Ico a t).filter fun u => ∀ p ∈ ps, ¬ (p.1 ≤ u ∧ u < p.2)

section Instants

variable {ps qs : List (ℤ × ℤ)} {p : ℤ × ℤ} {a b d t : ℤ}

lemma mem_uncovered {u : ℤ} :
    u ∈ uncovered ps a t ↔ (a ≤ u ∧ u < t) ∧ ∀ p ∈ ps, ¬ (p.1 ≤ u ∧ u < p.2) := by
  rw [uncovered, Finset.mem_filter, Finset.mem_Ico]

/-- No more time is uncovered than passes. -/
lemma card_uncovered_le (h : a ≤ t) : ((uncovered ps a t).card : ℤ) ≤ t - a := by
  have hle : (uncovered ps a t).card ≤ (Finset.Ico a t).card := Finset.card_filter_le _ _
  rw [Int.card_Ico] at hle
  omega

/-- Before the first pause all time is uncovered. -/
lemma uncovered_eq_Ico (h : ∀ p ∈ ps, t ≤ p.1) : uncovered ps a t = Finset.Ico a t := by
  refine Finset.filter_true_of_mem fun u hu p hp hcover => ?_
  have hstart := h p hp
  have hu' := (Finset.mem_Ico.mp hu).2
  omega

/-- Uncovered time adds up. -/
lemma card_uncovered_add (hab : a ≤ b) (hbt : b ≤ t) :
    (uncovered ps a t).card = (uncovered ps a b).card + (uncovered ps b t).card := by
  have hsplit : uncovered ps a t = uncovered ps a b ∪ uncovered ps b t := by
    rw [uncovered, uncovered, uncovered, ← Finset.filter_union, Finset.Ico_union_Ico_eq_Ico hab hbt]
  have hdisj : Disjoint (uncovered ps a b) (uncovered ps b t) :=
    Finset.disjoint_filter_filter (Finset.Ico_disjoint_Ico_consecutive a b t)
  rw [hsplit, Finset.card_union_of_disjoint hdisj]

/-- Uncovered time grows. -/
lemma card_uncovered_mono (h : b ≤ t) : (uncovered ps a b).card ≤ (uncovered ps a t).card :=
  Finset.card_le_card (Finset.filter_subset_filter _ (Finset.Ico_subset_Ico_right h))

/-- Uncovered time depends only on the pauses that cover an instant in between. -/
lemma uncovered_congr (h : ∀ u, a ≤ u → u < t →
    ((∃ p ∈ ps, p.1 ≤ u ∧ u < p.2) ↔ ∃ q ∈ qs, q.1 ≤ u ∧ u < q.2)) :
    uncovered ps a t = uncovered qs a t := by
  refine Finset.filter_congr fun u hu => ?_
  obtain ⟨hau, hut⟩ := Finset.mem_Ico.mp hu
  have := not_congr (h u hau hut)
  push Not at this
  simpa only [not_and, not_lt] using this

/-- A pause that is over covers nothing. -/
lemma uncovered_cons (h : p.2 ≤ a) : uncovered (p :: ps) a t = uncovered ps a t := by
  refine Finset.filter_congr fun u hu => ?_
  rw [List.forall_mem_cons, and_iff_right]
  have := (Finset.mem_Ico.mp hu).1
  omega

/-- Up to the end of the first pause, time is uncovered only before it begins. -/
lemma uncovered_first (h : ∀ q ∈ ps, p.1 ≤ q.1) :
    uncovered (p :: ps) a (max (max p.2 p.1) a) = Finset.Ico a (max p.1 a) := by
  ext u
  rw [mem_uncovered, Finset.mem_Ico, List.forall_mem_cons]
  constructor
  · rintro ⟨⟨hau, hub⟩, hp, _⟩
    omega
  · rintro ⟨hau, hub⟩
    have hlt : u < p.1 := by omega
    refine ⟨⟨hau, by omega⟩, by omega, fun q hq hcover => ?_⟩
    have := h q hq
    omega

/-- **The clamped walk finds the first instant** before which as much time is uncovered. -/
theorem sweep_isLeast (h : ps.Pairwise fun p q => p.1 ≤ q.1) (hd : 0 ≤ d) :
    IsLeast {t | a ≤ t ∧ d ≤ (uncovered ps a t).card} (sweep ps a d) := by
  induction ps generalizing a d with
  | nil =>
    rw [sweep]
    refine ⟨⟨by omega, ?_⟩, fun t ht => ?_⟩
    · rw [uncovered_eq_Ico (by simp), Int.card_Ico]
      omega
    · have hle : ((uncovered [] a t).card : ℤ) ≤ t - a := card_uncovered_le ht.1
      have := ht.2
      omega
  | cons p ps ih =>
    obtain ⟨hfirst, hrest⟩ := List.pairwise_cons.mp h
    rw [sweep]
    split_ifs with hrun
    · -- the instant falls before the first pause, or is reached at once
      refine ⟨⟨by omega, ?_⟩, fun t ht => ?_⟩
      · rcases hd.eq_or_lt with rfl | hpos
        · exact Int.natCast_nonneg _
        · have hstart : a + d ≤ p.1 := by omega
          have hfree : ∀ q ∈ p :: ps, a + d ≤ q.1 :=
            List.forall_mem_cons.mpr ⟨hstart, fun q hq => hstart.trans (hfirst q hq)⟩
          rw [uncovered_eq_Ico hfree, Int.card_Ico]
          omega
      · have hle : ((uncovered (p :: ps) a t).card : ℤ) ≤ t - a := card_uncovered_le ht.1
        have := ht.2
        omega
    · -- up to the end of the first pause too little time is uncovered, and what remains is
      -- found after it
      obtain ⟨⟨hle, henough⟩, hleast⟩ := ih hrest
        (show 0 ≤ d - max (p.1 - a) 0 by omega) (a := max (max p.2 p.1) a)
      have hbefore : ((uncovered (p :: ps) a (max (max p.2 p.1) a)).card : ℤ)
          = max (p.1 - a) 0 := by
        rw [uncovered_first hfirst, Int.card_Ico]
        omega
      have hafter (t : ℤ) (ht : max (max p.2 p.1) a ≤ t) :
          ((uncovered (p :: ps) a t).card : ℤ)
            = max (p.1 - a) 0 + (uncovered ps (max (max p.2 p.1) a) t).card := by
        rw [card_uncovered_add (by omega) ht, Nat.cast_add, hbefore, uncovered_cons (by omega)]
      refine ⟨⟨by omega, ?_⟩, fun t ht => ?_⟩
      · rw [hafter _ hle]
        omega
      · rcases le_total (max (max p.2 p.1) a) t with hlate | hearly
        · refine hleast ⟨hlate, ?_⟩
          have := ht.2
          rw [hafter t hlate] at this
          omega
        · have hmono : (uncovered (p :: ps) a t).card
              ≤ (uncovered (p :: ps) a (max (max p.2 p.1) a)).card := card_uncovered_mono hearly
          have := ht.2
          omega

end Instants

end Timeline
