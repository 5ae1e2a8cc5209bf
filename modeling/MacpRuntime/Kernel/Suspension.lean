import MacpRuntime.Kernel.Lifecycle

/-!
Suspension accounting over whole runs: the banked total, the recorded pauses and the TTL deadline
are three records of one quantity.

* `Session.Balanced`: the banked total and the deadline are the exact values clamped at the largest
  `i64`, and both caps are respected;
* `suspension_accounting`: **a live session of revision 2 or later is balanced in every reachable
  state**, and a resume force-expires it exactly when its deadline has passed or its list of pauses
  is full.
-/

namespace MacpRuntime

variable {mode : Mode}

/-! ### Recorded pauses -/

variable (p : Int64 × Int64)

/-- The width of a recorded pause; one recorded backwards has none. -/
def pauseWidth : ℤ := max (p.2.toInt - p.1.toInt) 0

/-- The exact total of the recorded pauses. -/
def pausedTotal (ps : List (Int64 × Int64)) : ℤ := (ps.map pauseWidth).sum

@[simp] lemma pausedTotal_nil : pausedTotal [] = 0 := rfl

@[simp] lemma pausedTotal_append (ps qs : List (Int64 × Int64)) :
    pausedTotal (ps ++ qs) = pausedTotal ps + pausedTotal qs := by
  simp [pausedTotal]

@[simp] lemma pausedTotal_singleton : pausedTotal [p] = pauseWidth p := by
  simp [pausedTotal]

lemma pauseWidth_nonneg : 0 ≤ pauseWidth p := le_max_right _ _

lemma pausedTotal_nonneg (ps : List (Int64 × Int64)) : 0 ≤ pausedTotal ps := by
  refine List.sum_nonneg fun w hw => ?_
  obtain ⟨p, _, rfl⟩ := List.mem_map.mp hw
  exact pauseWidth_nonneg p

/-! ### The books of a session -/

/-- The largest `i64`, where the accounting saturates. -/
def i64Max : ℤ := 2 ^ 63 - 1

/-- **Balanced books**, for a deadline bound at `bound`: the banked total and the deadline
follow the recorded pauses exactly, up to saturation, and neither cap is exceeded. -/
structure Session.Balanced (bound : ℤ) (s : Session) : Prop where
  accumulated : s.accumulatedSuspendedMs.toInt = min i64Max (pausedTotal s.suspensionIntervals)
  deadline : s.ttlExpiry.toInt = min i64Max (bound + pausedTotal s.suspensionIntervals)
  cycles : s.suspensionIntervals.length ≤ maxSuspensionCycles
  capped : s.accumulatedSuspendedMs ≤ s.effectiveMaxSuspendMs

/-- The pause in progress began at `a` and ends at `b` without overflowing a difference. -/
def PauseFits (a b : Int64) : Prop :=
  -2 ^ 63 ≤ b.toInt - a.toInt ∧ b.toInt - a.toInt < 2 ^ 63

instance (a b : Int64) : Decidable (PauseFits a b) := inferInstanceAs (Decidable (_ ∧ _))

variable {s : Session} {bound : ℤ} {ops : List Op}

/-- What a resume banks is the exact width of the pause it records. -/
lemma Session.toInt_banked {nowMs : Int64}
    (hfit : ∀ a, s.suspendedAtMs = some a → PauseFits a nowMs) :
    (s.banked nowMs).toInt = pauseWidth (s.suspendedAtMs.getD nowMs, nowMs) := by
  rw [Session.banked, Int64.toInt_max, Int64.toInt_zero, pauseWidth]
  cases hs : s.suspendedAtMs with
  | none => simp
  | some a =>
    obtain ⟨hlo, hhi⟩ := hfit a hs
    rw [Option.getD_some, Int64.toInt_sub_of_fits hlo hhi]

lemma Session.effectiveMaxSuspendMs_pos (s : Session) : 0 < s.effectiveMaxSuspendMs := by
  unfold Session.effectiveMaxSuspendMs
  split
  · assumption
  · decide

/-- A resume that reopens the session keeps its books balanced. -/
lemma Session.Balanced.resume (h : s.Balanced bound) {nowMs : Int64} (hrev : 2 ≤ s.semanticsRev)
    (hsusp : s.state = .Suspended) (hfit : ∀ a, s.suspendedAtMs = some a → PauseFits a nowMs)
    (hlive : (s.resume nowMs).1.state.isTerminal = false) : (s.resume nowMs).1.Balanced bound := by
  have hw := Session.toInt_banked hfit
  have hwn := pauseWidth_nonneg (s.suspendedAtMs.getD nowMs, nowMs)
  have htn := pausedTotal_nonneg s.suspensionIntervals
  have hacc := h.accumulated
  have hdl := h.deadline
  have hpush : 2 ≤ s.semanticsRev ∨ s.suspensionIntervals.length < maxSuspensionCycles :=
    .inl hrev
  rw [Session.resume, if_neg (not_not.mpr hsusp)] at hlive ⊢
  dsimp only at hlive ⊢
  split_ifs at hlive ⊢ with hcyc hcap
  · cases hlive
  · cases hlive
  · have hcyc' := not_and.mp hcyc hrev
    refine ⟨?_, ?_, not_lt.mp hcyc', Int64.not_lt.mp hcap⟩
    · simp only [Session.recordPause, if_pos hpush]
      rw [Int64.toInt_saturatingAdd_of_nonneg _ (hw ▸ hwn), hw, pausedTotal_append,
        pausedTotal_singleton, hacc]
      unfold i64Max
      omega
    · simp only [Session.recordPause, if_pos hpush]
      rw [Int64.toInt_saturatingAdd_of_nonneg _ (hw ▸ hwn), hw, pausedTotal_append,
        pausedTotal_singleton, hdl]
      unfold i64Max
      omega

/-- **When a resume force-expires**: the deadline has passed, or the list of pauses is full.
Both sides compute the same wrapped difference, so no assumption on the clocks is needed. -/
lemma Session.resume_expired_iff (hrev : 2 ≤ s.semanticsRev) (hsusp : s.state = .Suspended)
    (hat : s.suspendedAtMs.isSome = true) (nowMs : Int64) :
    (s.resume nowMs).1.state = .Expired
      ↔ s.deadlinePassed nowMs = true ∨ maxSuspensionCycles ≤ s.suspensionIntervals.length := by
  obtain ⟨a, ha⟩ := Option.isSome_iff_exists.mp hat
  have hpush : 2 ≤ s.semanticsRev ∨ s.suspensionIntervals.length < maxSuspensionCycles :=
    .inl hrev
  have hlen : (s.recordPause nowMs).suspensionIntervals.length
      = s.suspensionIntervals.length + 1 := by
    simp [Session.recordPause, if_pos hpush]
  have hdl : s.deadlinePassed nowMs = true
      ↔ (s.recordPause nowMs).effectiveMaxSuspendMs
          < (s.recordPause nowMs).accumulatedSuspendedMs := by
    simp only [Session.deadlinePassed, hsusp, Session.suspendCapExceeded, ha, decide_eq_true_eq,
      Session.recordPause, Session.banked, Option.getD_some]
    rfl
  rw [Session.resume, if_neg (not_not.mpr hsusp), hdl]
  dsimp only
  rw [hlen]
  split_ifs with hcyc hcap
  · exact ⟨fun _ => .inr (by omega), fun _ => rfl⟩
  · exact ⟨fun _ => .inl hcap, fun _ => rfl⟩
  · refine ⟨fun hst => (by cases hst), fun hor => ?_⟩
    rcases hor with hor | hor
    · exact absurd hor hcap
    · exact absurd ⟨hrev, by omega⟩ hcyc

/-! ### Whole runs -/

/-- No pause of the run, from one of its suspends to one of its resumes, overflows a
difference of clocks. -/
def PausesFit (ops : List Op) : Prop :=
  ∀ a, Op.suspend a ∈ ops → ∀ b, Op.resume b ∈ ops → PauseFits a b

/-- The invariant of a run over `ops`: the pause in progress was begun by one of its
suspends, and the books are balanced while the session lives. -/
structure Session.Accounted (ops : List Op) (bound : ℤ) (s : Session) : Prop where
  rev : 2 ≤ s.semanticsRev
  begun : ∀ a, s.suspendedAtMs = some a → Op.suspend a ∈ ops
  balanced : s.state.isTerminal = false → s.Balanced bound

/-- A response leaves the books alone. -/
lemma Session.Accounted.applyModeResponse (h : s.Accounted ops bound) (r : ModeResponse) :
    (s.applyModeResponse r).Accounted ops bound := by
  cases r with
  | NoOp => exact h
  | PersistState state =>
    exact ⟨h.rev, h.begun, fun hl =>
      ⟨(h.balanced hl).accumulated, (h.balanced hl).deadline, (h.balanced hl).cycles,
        (h.balanced hl).capped⟩⟩
  | Resolve resolution => exact ⟨h.rev, h.begun, fun hl => by cases hl⟩
  | PersistAndResolve state resolution => exact ⟨h.rev, h.begun, fun hl => by cases hl⟩

/-- Writes outside the books keep a session accounted. -/
lemma Session.Accounted.of_seen (h : s.Accounted ops bound) (seen : Std.ExtTreeSet String)
    (counts : Std.ExtTreeMap String UInt32) (lastSeen : Std.ExtTreeMap String Int64) :
    Session.Accounted ops bound { s with
      seenMessageIds := seen
      participantMessageCounts := counts
      participantLastSeen := lastSeen } :=
  ⟨h.rev, h.begun, fun hl =>
    ⟨(h.balanced hl).accumulated, (h.balanced hl).deadline, (h.balanced hl).cycles,
      (h.balanced hl).capped⟩⟩

/-- Every move of the run keeps a session accounted. -/
lemma Move.accounted (hfit : PausesFit ops) {op : Op} (hop : op ∈ ops) {s' : Session}
    (hm : Move mode op s s') (h : s.Accounted ops bound) : s'.Accounted ops bound := by
  cases hm with
  | synthetic _ _ => exact (h.of_seen _ _ _).applyModeResponse _
  | commit _ _ _ _ => exact (h.of_seen _ _ _).applyModeResponse _
  | @suspend _ nowMs hopen =>
    have hb := h.balanced (by rw [hopen]; rfl)
    refine ⟨h.rev, fun a ha => ?_, fun _ =>
      ⟨hb.accumulated, hb.deadline, hb.cycles, hb.capped⟩⟩
    cases ha
    exact hop
  | @resume _ nowMs hsusp =>
    have hb := h.balanced (by rw [hsusp]; rfl)
    have hnone := (Session.resume_state hsusp nowMs).1
    refine ⟨?_, ?_, fun hl => ?_⟩
    · have hbind := congrArg Session.Bindings.semanticsRev (s.resume_bindings nowMs)
      exact h.rev.trans_eq hbind.symm
    · intro a ha
      rw [hnone] at ha
      cases ha
    · exact hb.resume h.rev hsusp (fun a ha => hfit a (h.begun a ha) nowMs hop) hl
  | cancel _ => exact ⟨h.rev, fun a ha => (by cases ha), fun hl => by cases hl⟩
  | expire _ => exact ⟨h.rev, fun a ha => (by cases ha), fun hl => by cases hl⟩

/-- A session that has just begun has empty books. -/
lemma Session.Fresh.accounted (h : s.Fresh) (hrev : 2 ≤ s.semanticsRev) (ops : List Op) :
    s.Accounted ops s.ttlExpiry.toInt := by
  have hlt := s.ttlExpiry.toInt_lt
  have hcap := Int64.lt_iff_toInt_lt.mp s.effectiveMaxSuspendMs_pos
  refine ⟨hrev, fun a ha => ?_, fun _ => ⟨?_, ?_, ?_, ?_⟩⟩
  · rw [h.suspendedAt] at ha
    cases ha
  · rw [h.accumulated, h.intervals]
    decide
  · rw [h.intervals, pausedTotal_nil, i64Max]
    omega
  · rw [h.intervals]
    exact Nat.zero_le _
  · rw [h.accumulated, Int64.le_iff_toInt_le]
    omega

/-- **Suspension accounting**: along any run from the beginning of a session at revision 2 or
later, as long as it lives, the banked total is the sum of the recorded pauses and the
deadline is the one bound at the start plus that sum, both saturating at the largest `i64`;
at most 1024 pauses are recorded and the banked total is within the cap.  A resume
force-expires a suspended session exactly when its deadline has passed or 1024 pauses are
already recorded. -/
theorem suspension_accounting {prost : Prost} {s : Session} (hbegun : SessionBegun prost mode s)
    (hrev : 2 ≤ s.semanticsRev) (ops : List Op) (hfit : PausesFit ops) :
    ((run mode s ops).state.isTerminal = false →
      (run mode s ops).accumulatedSuspendedMs.toInt
          = min i64Max (pausedTotal (run mode s ops).suspensionIntervals)
        ∧ (run mode s ops).ttlExpiry.toInt
          = min i64Max (s.ttlExpiry.toInt + pausedTotal (run mode s ops).suspensionIntervals)
        ∧ (run mode s ops).suspensionIntervals.length ≤ 1024
        ∧ (run mode s ops).accumulatedSuspendedMs ≤ (run mode s ops).effectiveMaxSuspendMs)
      ∧ ((run mode s ops).state = .Suspended → ∀ nowMs,
          (((run mode s ops).resume nowMs).1.state = .Expired
            ↔ (run mode s ops).deadlinePassed nowMs = true
              ∨ (run mode s ops).suspensionIntervals.length = 1024)) := by
  have hacc : (run mode s ops).Accounted ops s.ttlExpiry.toInt :=
    run_invariant (fun _ hop _ _ hm => hm.accounted hfit hop)
      (hbegun.fresh.accounted hrev ops)
  have hcoh : (run mode s ops).Coherent :=
    run_invariant (fun _ _ _ _ hm => hm.coherent) hbegun.coherent
  refine ⟨fun hl => ?_, fun hsusp nowMs => ?_⟩
  · have hb := hacc.balanced hl
    exact ⟨hb.accumulated, hb.deadline, hb.cycles, hb.capped⟩
  · have hle : (run mode s ops).suspensionIntervals.length ≤ 1024 :=
      (hacc.balanced (by rw [hsusp]; rfl)).cycles
    rw [Session.resume_expired_iff hacc.rev hsusp (hcoh.suspended_iff.mpr hsusp) nowMs]
    simp only [maxSuspensionCycles]
    constructor
    · rintro (h | h)
      · exact .inl h
      · exact .inr (le_antisymm hle h)
    · rintro (h | h)
      · exact .inl h
      · exact .inr h.ge

lemma sample_pausesFit : PausesFit [.suspend 7, .resume 9, .suspend 11] := by
  intro a ha b hb
  simp only [List.mem_cons, Op.suspend.injEq, Op.resume.injEq, reduceCtorEq, false_or,
    List.not_mem_nil, or_false] at ha hb
  subst hb
  rcases ha with rfl | rfl <;> decide

theorem suspension_accounting_sample :
    (run (Passthrough.mode protobuf []) Passthrough.sampleSession
          [.suspend 7, .resume 9, .suspend 11]).state = .Suspended
      ∧ (run (Passthrough.mode protobuf []) Passthrough.sampleSession
          [.suspend 7, .resume 9, .suspend 11]).accumulatedSuspendedMs.toInt
          = min i64Max (pausedTotal (run (Passthrough.mode protobuf []) Passthrough.sampleSession
              [.suspend 7, .resume 9, .suspend 11]).suspensionIntervals) :=
  ⟨by decide, ((suspension_accounting (.accepted Passthrough.sampleStart_accepted) (by decide)
    [.suspend 7, .resume 9, .suspend 11] sample_pausesFit).1 (by decide)).1⟩

/-- A deadline bound at the end of time does not move: a start stamped with the largest
`i64` is accepted, and after a pause of 5 ms the deadline is short of the sum by 5. -/
theorem deadline_saturates :
    ∃ s, acceptSessionStart protobuf
          { Passthrough.sampleStart with timestampUnixMs := Int64.maxValue } 5
          (Passthrough.mode protobuf []) none {} = .ok s
      ∧ 2 ≤ s.semanticsRev
      ∧ PausesFit [.suspend 0, .resume 5]
      ∧ (run (Passthrough.mode protobuf []) s [.suspend 0, .resume 5]).state = .Open
      ∧ (run (Passthrough.mode protobuf []) s [.suspend 0, .resume 5]).accumulatedSuspendedMs = 5
      ∧ (run (Passthrough.mode protobuf []) s [.suspend 0, .resume 5]).ttlExpiry.toInt
          ≠ s.ttlExpiry.toInt + (run (Passthrough.mode protobuf []) s
              [.suspend 0, .resume 5]).accumulatedSuspendedMs.toInt := by
  refine ⟨{ Passthrough.sampleSession with ttlExpiry := Int64.maxValue }, rfl, by decide, ?_,
    by decide, by decide, by decide⟩
  intro a ha b hb
  simp only [List.mem_cons, Op.suspend.injEq, Op.resume.injEq, reduceCtorEq, false_or, or_false,
    List.not_mem_nil] at ha hb
  subst ha hb
  decide

end MacpRuntime
