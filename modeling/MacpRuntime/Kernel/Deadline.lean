import MacpRuntime.Lib.Timeline
import MacpRuntime.Kernel.Suspension

/-!
The instant at which a span of unsuspended time has elapsed (`Session::unsuspended_deadline`): the
walk of the source is the clamped walk over the recorded pauses, up to saturation, so **the deadline
is the first instant with enough unsuspended time since the start**, and pauses that begin at or
after it do not move it (`unsuspendedDeadline_isLeast`).
-/

namespace MacpRuntime

open Timeline

/-- Recorded pauses as a timeline. -/
def toTimeline (ps : List (Int64 × Int64)) : List (ℤ × ℤ) :=
  ps.map fun p => (p.1.toInt, p.2.toInt)

@[simp] lemma toTimeline_append (ps qs : List (Int64 × Int64)) :
    toTimeline (ps ++ qs) = toTimeline ps ++ toTimeline qs := List.map_append

/-- **The walk of the source is the clamped walk over the timeline**, up to saturation. -/
theorem toInt_deadlineWalk (ps : List (Int64 × Int64)) (cur : Int64) {remaining : Int64}
    (hpos : 0 ≤ remaining.toInt) :
    (Session.deadlineWalk ps cur remaining).toInt
      = min i64Max (sweep (toTimeline ps) cur.toInt remaining.toInt) := by
  induction ps generalizing cur remaining with
  | nil => exact Int64.toInt_saturatingAdd_of_nonneg _ hpos
  | cons p ps ih =>
    obtain ⟨a, b⟩ := p
    have hrem := remaining.toInt_lt
    have hrun : (max (a.saturatingSub cur) 0).toInt
        = min i64Max (max (a.toInt - cur.toInt) 0) := by
      rw [Int64.toInt_max, Int64.toInt_saturatingSub, Int64.toInt_zero, i64Max]
      omega
    -- a run that saturates is longer than any span
    have hiff : remaining ≤ max (a.saturatingSub cur) 0
        ↔ remaining.toInt ≤ max (a.toInt - cur.toInt) 0 := by
      rw [Int64.le_iff_toInt_le, hrun, i64Max]
      omega
    rw [Session.deadlineWalk]
    simp only [toTimeline, List.map_cons, sweep]
    by_cases hle : remaining.toInt ≤ max (a.toInt - cur.toInt) 0
    · rw [if_pos hle, if_pos (hiff.mpr hle)]
      exact Int64.toInt_saturatingAdd_of_nonneg _ hpos
    · rw [if_neg hle, if_neg (mt hiff.mp hle)]
      have hleft : (remaining.saturatingSub (max (a.saturatingSub cur) 0)).toInt
          = remaining.toInt - max (a.toInt - cur.toInt) 0 := by
        rw [Int64.toInt_saturatingSub, hrun, i64Max]
        omega
      rw [ih _ (by omega), hleft, Int64.toInt_max, Int64.toInt_max]
      rfl

/-- The deadline of a span that began at `o`, when every pause recorded before it began
earlier, or was empty. -/
lemma toInt_unsuspendedDeadline {s : Session} {before ps : List (Int64 × Int64)} {o span : Int64}
    (hsplit : s.suspensionIntervals = before ++ ps)
    (hbefore : ∀ p ∈ before, p.1 < o ∨ p.1 = o ∧ p.2 ≤ o)
    (hordered : Ordered o.toInt (toTimeline ps)) (hspan : 0 < span.toInt) :
    (s.unsuspendedDeadline o span).toInt
      = min i64Max (walk (toTimeline ps) o.toInt span.toInt) := by
  have hkeep : ps.filter (fun p => o ≤ p.1) = ps := by
    rw [List.filter_eq_self]
    intro p hp
    have hstart := hordered.le_start (p.1.toInt, p.2.toInt) (List.mem_map_of_mem hp)
    rw [decide_eq_true_eq, Int64.le_iff_toInt_le]
    exact hstart
  have hover : ∀ q ∈ toTimeline (before.filter fun p => o ≤ p.1),
      q.1 ≤ o.toInt ∧ q.2 ≤ o.toInt := by
    refine List.forall_mem_map.mpr fun q hq => ?_
    obtain ⟨hmem, hle⟩ := List.mem_filter.mp hq
    rw [decide_eq_true_eq] at hle
    rcases hbefore q hmem with hlt | ⟨heq, hend⟩
    · exact absurd hle (Int64.not_le.mpr hlt)
    · exact ⟨(congrArg Int64.toInt heq).le, Int64.le_iff_toInt_le.mp hend⟩
  rw [Session.unsuspendedDeadline, hsplit, List.filter_append, hkeep,
    toInt_deadlineWalk _ _ hspan.le, toTimeline_append, sweep_append_of_over hover hspan,
    hordered.sweep_eq_walk]

/-! ### The first instant -/

section First

variable {s : Session} {fromMs durationMs : Int64}

/-- The time since `fromMs` and before `t` that no recorded pause covers. -/
noncomputable def Session.unsuspendedTime (s : Session) (fromMs : Int64) (t : ℤ) : ℤ :=
  (uncovered (toTimeline s.suspensionIntervals) fromMs.toInt t).card

lemma mem_toTimeline_covers {ps : List (Int64 × Int64)} {u : ℤ} :
    (∃ p ∈ toTimeline ps, p.1 ≤ u ∧ u < p.2) ↔ ∃ p ∈ ps, p.1.toInt ≤ u ∧ u < p.2.toInt := by
  simp [toTimeline]

/-- Pauses that began before the start, and are over, cover nothing of what follows. -/
lemma Session.unsuspendedTime_eq
    (hinside : ∀ p ∈ s.suspensionIntervals, ¬ (p.1 < fromMs ∧ fromMs < p.2)) (t : ℤ) :
    s.unsuspendedTime fromMs t
      = (uncovered (toTimeline (s.suspensionIntervals.filter fun p => fromMs ≤ p.1))
          fromMs.toInt t).card := by
  rw [Session.unsuspendedTime]
  congr 2
  refine uncovered_congr fun u hfrom _ => ?_
  rw [mem_toTimeline_covers, mem_toTimeline_covers]
  refine exists_congr fun p => ?_
  rw [List.mem_filter, decide_eq_true_eq, and_assoc]
  refine and_congr_right fun hp => (and_iff_right_of_imp fun hcover => ?_).symm
  by_contra hlt
  rw [Int64.not_le] at hlt
  refine hinside p hp ⟨hlt, Int64.lt_iff_toInt_lt.mpr ?_⟩
  omega

/-- The deadline is the first instant with enough unsuspended time. -/
lemma unsuspendedDeadline_spec (hd : 0 ≤ durationMs)
    (hsorted : s.suspensionIntervals.Pairwise fun p q => p.1 ≤ q.1)
    (hinside : ∀ p ∈ s.suspensionIntervals, ¬ (p.1 < fromMs ∧ fromMs < p.2)) {t : Int64}
    (ht : fromMs ≤ t) (henough : durationMs.toInt ≤ s.unsuspendedTime fromMs t.toInt) :
    IsLeast {t : ℤ | fromMs.toInt ≤ t ∧ durationMs.toInt ≤ s.unsuspendedTime fromMs t}
      (s.unsuspendedDeadline fromMs durationMs).toInt := by
  rw [Int64.le_iff_toInt_le, Int64.toInt_zero] at hd
  rw [Int64.le_iff_toInt_le] at ht
  have hstarts : (toTimeline (s.suspensionIntervals.filter fun p => fromMs ≤ p.1)).Pairwise
      fun p q => p.1 ≤ q.1 :=
    List.pairwise_map.mpr ((hsorted.filter _).imp Int64.le_iff_toInt_le.mp)
  have hleast := sweep_isLeast hstarts hd (a := fromMs.toInt)
  simp only [← Session.unsuspendedTime_eq hinside] at hleast
  -- some instant of the clock is late enough, so the first one does not saturate
  have hfits : _ ≤ i64Max := (hleast.2 ⟨ht, henough⟩).trans (Int.le_sub_one_of_lt t.toInt_lt)
  rw [Session.unsuspendedDeadline, toInt_deadlineWalk _ _ hd, min_eq_right hfits]
  exact hleast

/-- **The deadline is the first instant with enough unsuspended time since the start**, whenever
some instant of the clock is late enough.  The pauses are sorted by their beginning, and none
of them has the start strictly inside; they may touch, overlap or be empty.  Further pauses
that begin at or after the deadline do not move it. -/
theorem unsuspendedDeadline_isLeast (hd : 0 ≤ durationMs)
    (hsorted : s.suspensionIntervals.Pairwise fun p q => p.1 ≤ q.1)
    (hinside : ∀ p ∈ s.suspensionIntervals, ¬ (p.1 < fromMs ∧ fromMs < p.2))
    (hfits : ∃ t : Int64, fromMs ≤ t ∧ durationMs.toInt ≤ s.unsuspendedTime fromMs t.toInt) :
    IsLeast {t : ℤ | fromMs.toInt ≤ t ∧ durationMs.toInt ≤ s.unsuspendedTime fromMs t}
        (s.unsuspendedDeadline fromMs durationMs).toInt
      ∧ ∀ (s' : Session) (later : List (Int64 × Int64)),
          s'.suspensionIntervals.Perm (s.suspensionIntervals ++ later) →
          s'.suspensionIntervals.Pairwise (fun p q => p.1 ≤ q.1) →
          (∀ p ∈ later, s.unsuspendedDeadline fromMs durationMs ≤ p.1) →
          s'.unsuspendedDeadline fromMs durationMs = s.unsuspendedDeadline fromMs durationMs := by
  obtain ⟨t, ht, henough⟩ := hfits
  have hleast := unsuspendedDeadline_spec hd hsorted hinside ht henough
  refine ⟨hleast, fun s' later hperm hsorted' hlater => ?_⟩
  obtain ⟨⟨hfrom, hdeadline⟩, hfirst⟩ := hleast
  -- up to the deadline the two lists cover the same instants
  have hsame (t : ℤ) (ht : t ≤ (s.unsuspendedDeadline fromMs durationMs).toInt) :
      s'.unsuspendedTime fromMs t = s.unsuspendedTime fromMs t := by
    rw [Session.unsuspendedTime, Session.unsuspendedTime]
    congr 2
    refine uncovered_congr fun u _ hu => ?_
    rw [mem_toTimeline_covers, mem_toTimeline_covers]
    constructor
    · rintro ⟨p, hp, hcover⟩
      rcases List.mem_append.mp (hperm.mem_iff.mp hp) with hold | hnew
      · exact ⟨p, hold, hcover⟩
      · have := Int64.le_iff_toInt_le.mp (hlater p hnew)
        omega
    · rintro ⟨p, hp, hcover⟩
      exact ⟨p, hperm.mem_iff.mpr (List.mem_append_left _ hp), hcover⟩
  have hinside' : ∀ p ∈ s'.suspensionIntervals, ¬ (p.1 < fromMs ∧ fromMs < p.2) := by
    intro p hp
    rcases List.mem_append.mp (hperm.mem_iff.mp hp) with hold | hnew
    · exact hinside p hold
    · rintro ⟨hlt, _⟩
      have := Int64.le_iff_toInt_le.mp (hlater p hnew)
      rw [Int64.lt_iff_toInt_lt] at hlt
      omega
  have hleast' := unsuspendedDeadline_spec hd hsorted' hinside' (Int64.le_iff_toInt_le.mpr hfrom)
    (hdeadline.trans_eq (hsame _ le_rfl).symm)
  have hle := hleast'.2 ⟨hfrom, hdeadline.trans_eq (hsame _ le_rfl).symm⟩
  exact Int64.toInt_inj.mp
    (le_antisymm hle (hfirst ⟨hleast'.1.1, hleast'.1.2.trans_eq (hsame _ hle)⟩))

/-- A session with a pause that ends at the start, two that touch and one after the deadline. -/
def touchingPauses : Session :=
  { Passthrough.sampleSession with suspensionIntervals := [(-5, 3), (5, 8), (8, 9), (20, 25)] }

theorem unsuspendedDeadline_isLeast_touching :
    IsLeast {t : ℤ | (3 : Int64).toInt ≤ t
        ∧ (10 : Int64).toInt ≤ touchingPauses.unsuspendedTime 3 t} (17 : Int64).toInt
      ∧ ∀ (s' : Session) (later : List (Int64 × Int64)),
          s'.suspensionIntervals.Perm (touchingPauses.suspensionIntervals ++ later) →
          s'.suspensionIntervals.Pairwise (fun p q => p.1 ≤ q.1) → (∀ p ∈ later, 17 ≤ p.1) →
          s'.unsuspendedDeadline 3 10 = 17 := by
  have hdeadline : touchingPauses.unsuspendedDeadline 3 10 = 17 := by decide
  have hleast := @unsuspendedDeadline_isLeast touchingPauses 3 10 (by decide) (by decide)
    (by simp [touchingPauses]) ⟨17, by decide, by decide⟩
  rw [hdeadline] at hleast
  exact hleast

end First

end MacpRuntime
