import MacpRuntime.Handoff.Implicit

/-!
The timestamp of an implicit accept, on clocks that may step backwards.

Whether the accept is due is decided on the banked total, its timestamp is found by walking the
recorded pauses.  The walk never ends before the timeout has passed, and it ends in time as long as
every pause it counts was banked after the offer.

* `Op.Accounted`: the calls that keep the two records together: no offer is accepted at a clock
  before the beginning of a recorded pause, and no pause saturates the bank;
* `implicit_accept_stamp`: **in a run of accounted calls what is due is never stamped in the future,
  nor before the timeout has passed**;
* `pause_before_offer_stamps_future`: an offer accepted after the clock stepped back across a pause.
-/

namespace MacpRuntime

/-! ### The bounds of the walk -/

/-- The walk ends no earlier than the span it looks for. -/
lemma le_deadlineWalk (ps : List (Int64 × Int64)) (cur remaining : Int64)
    (hpos : 0 ≤ remaining.toInt) :
    min i64Max (cur.toInt + remaining.toInt)
      ≤ (Session.deadlineWalk ps cur remaining).toInt := by
  rw [toInt_deadlineWalk ps cur hpos]
  exact min_le_min_left _ (Timeline.le_sweep _ _ _)

/-- The walk is delayed by no more than the pauses it meets. -/
lemma deadlineWalk_le (ps : List (Int64 × Int64)) (cur remaining : Int64)
    (hpos : 0 ≤ remaining.toInt) :
    (Session.deadlineWalk ps cur remaining).toInt
      ≤ cur.toInt + remaining.toInt + pausedTotal ps := by
  have hle := Timeline.sweep_le (toTimeline ps) hpos (a := cur.toInt)
  rw [toTimeline, List.map_map] at hle
  rw [toInt_deadlineWalk ps cur hpos]
  exact (min_le_right _ _).trans hle

/-- The total of the pauses that begin at `o` or later. -/
def Session.pausedFrom (s : Session) (o : Int64) : ℤ :=
  pausedTotal (s.suspensionIntervals.filter fun p => o ≤ p.1)

/-- What a resume banks covers the pause it records, when that began at a positive clock. -/
lemma Session.pauseWidth_le_banked {s : Session} {nowMs : Int64}
    (hpos : 0 ≤ (s.suspendedAtMs.getD nowMs).toInt) :
    pauseWidth (s.suspendedAtMs.getD nowMs, nowMs) ≤ (s.banked nowMs).toInt := by
  have hlt := nowMs.toInt_lt
  rw [Session.banked, Int64.toInt_max, Int64.toInt_zero, pauseWidth]
  dsimp only
  rcases le_total (s.suspendedAtMs.getD nowMs).toInt nowMs.toInt with hle | hle
  · rw [Int64.toInt_sub_of_fits (by omega) (by omega)]
  · exact max_le (by omega) (le_max_right _ _)

/-- A resume of a suspended session records the pause and banks it, however it ends. -/
lemma Session.resume_records {s : Session} (hrev : 2 ≤ s.semanticsRev)
    (hsusp : s.state = .Suspended) (nowMs : Int64) :
    (s.resume nowMs).1.accumulatedSuspendedMs
        = s.accumulatedSuspendedMs.saturatingAdd (s.banked nowMs)
      ∧ (s.resume nowMs).1.suspensionIntervals
        = s.suspensionIntervals ++ [(s.suspendedAtMs.getD nowMs, nowMs)] := by
  have hpush : 2 ≤ s.semanticsRev ∨ s.suspensionIntervals.length < maxSuspensionCycles :=
    .inl hrev
  rw [Session.resume, if_neg (not_not.mpr hsusp)]
  dsimp only
  split_ifs <;> exact ⟨rfl, if_pos hpush⟩

/-! ### Accounted calls -/

/-- A call that keeps the recorded pauses and the bank together: an offer comes after the
beginning of every recorded pause that has a width, and a resume does not saturate the bank. -/
def Op.Accounted (s : Session) : Op → Prop
  | .step env nowMs => env.messageType = "HandoffOffer" →
      ∀ p ∈ s.suspensionIntervals, p.1 < nowMs ∨ p.2 ≤ p.1
  | .resume nowMs => s.state = .Suspended →
      s.accumulatedSuspendedMs.toInt + (s.banked nowMs).toInt ≤ i64Max
  | _ => True

namespace Handoff

variable {d : Deps}

/-- Every pause since an outstanding offer was banked since. -/
def Counted (d : Deps) (s : Session) : Prop :=
  ∀ k o, offerAt d s k = some o → o.disposition = .Offered → 0 < o.offeredAtMs →
    s.pausedFrom o.offeredAtMs + o.suspendedMsAtOffer.toInt ≤ s.accumulatedSuspendedMs.toInt

variable {k : String} {o : OfferRecord} {op : Op} {s : Session} {nowMs : Int64} {env : Envelope}

/-- An offer that is outstanding after a call was outstanding before it, with the same record, or
was brought in by it. -/
lemma Sound.pending_before (h : Sound d s) (hget : offerAt d (op.apply (mode d) s) k = some o)
    (hpending : o.disposition = .Offered) : offerAt d s k = some o ∨ offerAt d s k = none := by
  cases hbefore : offerAt d s k with
  | none => exact .inr rfl
  | some o₀ =>
    obtain ⟨o₁, hget₁, _, _, hsame⟩ := h.keeps [op] hbefore
    have heq : o₁ = o := Option.some.inj (hget₁.symm.trans hget)
    subst heq
    rw [hsame hpending]
    exact .inl rfl

/-- The account of an offer that the call brought in: nothing has been paused since. -/
lemma Counted.of_recorded (h : Sound d s) (hop : op.Accounted s) (hnone : offerAt d s k = none)
    (hget : offerAt d (op.apply (mode d) s) k = some o) :
    (op.apply (mode d) s).pausedFrom o.offeredAtMs + o.suspendedMsAtOffer.toInt
      ≤ (op.apply (mode d) s).accumulatedSuspendedMs.toInt := by
  obtain ⟨⟨env, rfl, htype⟩, hrec⟩ := records_of_none h hnone hget
  have hsame : s.SamePauses ((Op.step env o.offeredAtMs).apply (mode d) s) :=
    Op.samePauses (by simp) (by simp) s
  have hzero : ((Op.step env o.offeredAtMs).apply (mode d) s).pausedFrom o.offeredAtMs = 0 := by
    rw [Session.pausedFrom, hsame.intervals, pausedTotal]
    refine List.sum_eq_zero fun w hw => ?_
    obtain ⟨p, hp, rfl⟩ := List.mem_map.mp hw
    obtain ⟨hmem, hstart⟩ := List.mem_filter.mp hp
    rw [decide_eq_true_eq] at hstart
    rcases hop htype p hmem with hearly | hempty
    · exact absurd hearly (Int64.not_lt.mpr hstart)
    · rw [Int64.le_iff_toInt_le] at hempty
      exact max_eq_right (by omega)
  rw [hzero, hrec.banked, zero_add]

/-- A resume adds to the bank what it adds to the pauses since the offer. -/
lemma Counted.of_resume (hrev : 2 ≤ s.semanticsRev) {o : Int64}
    (hop : (Op.resume nowMs).Accounted s) (ho : 0 < o) {banked : ℤ}
    (h : s.pausedFrom o + banked ≤ s.accumulatedSuspendedMs.toInt) :
    (s.resume nowMs).1.pausedFrom o + banked
      ≤ (s.resume nowMs).1.accumulatedSuspendedMs.toInt := by
  by_cases hsusp : s.state = .Suspended
  · obtain ⟨hacc, hints⟩ := Session.resume_records hrev hsusp nowMs
    have hnonneg : 0 ≤ (s.banked nowMs).toInt := by
      rw [Session.banked, Int64.toInt_max, Int64.toInt_zero]
      exact le_max_right _ _
    have hfits := hop hsusp
    rw [hacc, Int64.toInt_saturatingAdd_of_nonneg _ hnonneg, Session.pausedFrom, hints,
      List.filter_append, pausedTotal_append]
    rw [Session.pausedFrom] at h
    have hlast : pausedTotal ([(s.suspendedAtMs.getD nowMs, nowMs)].filter fun p => o ≤ p.1)
        ≤ (s.banked nowMs).toInt := by
      rw [List.filter_singleton]
      by_cases hstart : o ≤ s.suspendedAtMs.getD nowMs
      · rw [decide_eq_true hstart, cond_true, pausedTotal_singleton]
        refine Session.pauseWidth_le_banked ?_
        rw [Int64.le_iff_toInt_le] at hstart
        have hpos := Int64.lt_iff_toInt_lt.mp ho
        rw [Int64.toInt_zero] at hpos
        omega
      · rw [decide_eq_false hstart, cond_false, pausedTotal_nil]
        exact hnonneg
    unfold i64Max at hfits
    omega
  · rwa [Session.resume, if_pos hsusp]

/-- **Every accounted call keeps the account.** -/
theorem Counted.apply (h : Sound d s) (hc : Counted d s) (hop : op.Accounted s) :
    Counted d (op.apply (mode d) s) := by
  intro k o hget hpending hpos
  rcases h.pending_before hget hpending with hbefore | hnone
  · have hold := hc k o hbefore hpending hpos
    have hother (hs : ∀ c, op ≠ .suspend c) (hr : ∀ c, op ≠ .resume c) :
        (op.apply (mode d) s).pausedFrom o.offeredAtMs + o.suspendedMsAtOffer.toInt
          ≤ (op.apply (mode d) s).accumulatedSuspendedMs.toInt := by
      have hsame : s.SamePauses (op.apply (mode d) s) := Op.samePauses hs hr s
      rwa [Session.pausedFrom, hsame.intervals, hsame.accumulated]
    cases op with
    | step env nowMs => exact hother (by simp) (by simp)
    | advance nowMs => exact hother (by simp) (by simp)
    | suspend nowMs =>
      rw [Op.apply, Session.suspend]
      split_ifs <;> exact hold
    | resume nowMs => exact Counted.of_resume h.rev hop hpos hold
    | cancel => exact hother (by simp) (by simp)
    | expire => exact hother (by simp) (by simp)
  · exact Counted.of_recorded h hop hnone hget

/-- Nothing is outstanding when a session begins. -/
lemma Counted.of_begun (h : SessionBegun d.prost (mode d) s) : Counted d s := by
  intro k o hget
  rw [offerAt_of_decode (decodeState_of_begun h)] at hget
  simp [State.default, State.offer?] at hget

lemma Counted.run (h : Sound d s) (hc : Counted d s) {ops : List Op}
    (hops : Along (mode d) (fun s op => op.Accounted s) s ops) :
    Counted d (run (mode d) s ops) := by
  have hboth : Sound d (MacpRuntime.run (mode d) s ops)
      ∧ Counted d (MacpRuntime.run (mode d) s ops) :=
    along_invariant (Q := fun t => Sound d t ∧ Counted d t)
      (fun t op hQ hP => ⟨hQ.1.run [op], hQ.2.apply hQ.1 hP⟩) ⟨h, hc⟩ hops
  exact hboth.2

/-! ### The stamp -/

/-- Nothing is due without a timeout. -/
lemma timeout_pos_of_due (h : dueSyntheticEnvelope d s nowMs = some env) :
    0 < implicitAcceptTimeoutMs d s := by
  rw [dueSyntheticEnvelope] at h
  dsimp only at h
  split_ifs at h with hrev htimeout
  exact Int64.not_le.mp htimeout

/-- What is due on a counted session is stamped between the timeout and the observation. -/
lemma Counted.stamp (h : Sound d s) (hc : Counted d s) (hget : offerAt d s k = some o)
    (hpending : o.disposition = .Offered) (hdue : dueSyntheticEnvelope d s nowMs = some env) :
    env.timestampUnixMs ≤ nowMs
      ∧ o.offeredAtMs.toInt + (implicitAcceptTimeoutMs d s).toInt
          ≤ env.timestampUnixMs.toInt := by
  obtain ⟨hoffered, helapsed, henv⟩ := h.due hget hpending hdue
  have hstamp : env.timestampUnixMs = Session.deadlineWalk
      (s.suspensionIntervals.filter fun p => o.offeredAtMs ≤ p.1) o.offeredAtMs
      (implicitAcceptTimeoutMs d s) := by
    rw [henv]
    rfl
  have htimeout := timeout_pos_of_due hdue
  have hcount := hc k o hget hpending hoffered
  have hwidth := pausedTotal_nonneg (s.suspensionIntervals.filter fun p => o.offeredAtMs ≤ p.1)
  have hlt := nowMs.toInt_lt
  rw [Int64.lt_iff_toInt_lt, Int64.toInt_zero] at hoffered htimeout
  rw [Session.pausedFrom] at hcount
  rw [implicitAcceptElapsedMs, if_pos h.rev, rev2ElapsedMs, Int64.le_iff_toInt_le,
    Int64.toInt_saturatingSub, Int64.toInt_saturatingSub, Int64.toInt_max,
    Int64.toInt_saturatingSub, Int64.toInt_zero] at helapsed
  have hupper := deadlineWalk_le (s.suspensionIntervals.filter fun p => o.offeredAtMs ≤ p.1)
    o.offeredAtMs (implicitAcceptTimeoutMs d s) htimeout.le
  have hlower := le_deadlineWalk (s.suspensionIntervals.filter fun p => o.offeredAtMs ≤ p.1)
    o.offeredAtMs (implicitAcceptTimeoutMs d s) htimeout.le
  rw [Int64.le_iff_toInt_le, hstamp]
  unfold i64Max at hlower
  constructor <;> omega

/-- Some outstanding offer is behind whatever is due. -/
lemma exists_pending_of_due (h : dueSyntheticEnvelope d s nowMs = some env) :
    ∃ k o, offerAt d s k = some o ∧ o.disposition = .Offered := by
  obtain ⟨st, o, hst, hfind, _⟩ := dueSyntheticEnvelope_eq_some h
  obtain ⟨k, hget, hpending⟩ := State.findOffer_eq_some hfind
  exact ⟨k, o, by rw [offerAt_of_decode hst, hget], by simpa using hpending⟩

/-- **No implicit accept from the future**: in every session reached by accounted calls, at
whatever clocks, what is due at `nowMs` is the implicit accept of an outstanding offer, stamped no
later than `nowMs` and no earlier than the offer's clock plus the timeout. -/
theorem implicit_accept_stamp {s : Session} (hbegun : SessionBegun d.prost (mode d) s)
    (hrev : 2 ≤ s.semanticsRev) (ops : List Op)
    (hops : Along (mode d) (fun s op => op.Accounted s) s ops) (nowMs : Int64) {env : Envelope}
    (hdue : dueSyntheticEnvelope d (run (mode d) s ops) nowMs = some env) :
    ∃ k o, offerAt d (run (mode d) s ops) k = some o ∧ o.disposition = .Offered
      ∧ env.messageId = implicitAcceptMessageIdPrefix ++ o.handoffId
      ∧ env.timestampUnixMs ≤ nowMs
      ∧ o.offeredAtMs.toInt + (implicitAcceptTimeoutMs d (run (mode d) s ops)).toInt
          ≤ env.timestampUnixMs.toInt := by
  have hsound := (Sound.of_begun hbegun hrev).run ops
  have hcounted := (Counted.of_begun hbegun).run (Sound.of_begun hbegun hrev) hops
  obtain ⟨k, o, hget, hpending⟩ := exists_pending_of_due hdue
  obtain ⟨hnow, hlater⟩ := hcounted.stamp hsound hget hpending hdue
  refine ⟨k, o, hget, hpending, ?_, hnow, hlater⟩
  obtain ⟨_, _, rfl⟩ := hsound.due hget hpending hdue
  rfl

lemma offered_due :
    dueSyntheticEnvelope deps (offered (sampleSession 5) 10) 110
      = some (implicitAccept deps (offered (sampleSession 5) 10)
          (sampleRecord 10 0) 110) := by
  have hsound := (Sound.of_begun sampleSession_begun (by decide)).run [Op.step sampleOffer 10]
  rw [run_sampleOffer] at hsound
  have hget := offerAt_offered (sampleSession 5) 10
  exact dueSyntheticEnvelope_of_pending hsound hget rfl (by decide) (by decide) 110

/-- The sample session after a pause from 20 to 520. -/
def steppedSession : Session :=
  { sampleSession 5 with
    ttlExpiry := 1505
    accumulatedSuspendedMs := 500
    suspensionIntervals := [(20, 520)] }

lemma run_stepped {nowMs : Int64}
    (hpre : checkPreconditions steppedSession sampleOffer nowMs = .ok .Proceed) :
    run (mode deps) (sampleSession 5) [Op.suspend 20, .resume 520, .step sampleOffer nowMs]
      = offered steppedSession nowMs := by
  have hpause : run (mode deps) (sampleSession 5) [Op.suspend 20, .resume 520]
      = steppedSession := rfl
  have hstep : (step steppedSession sampleOffer (mode deps) nowMs).1
      = offered steppedSession nowMs :=
    step_sampleOffer (decodeState_of_encoded rfl) hpre rfl rfl rfl
  rw [← hstep, ← hpause]
  rfl

/-- An offer at 530, after one pause and before another. -/
def pausedTwiceOps : List Op :=
  [.suspend 20, .resume 520, .step sampleOffer 530] ++ [.suspend 540, .resume 560]

/-- The session after it. -/
def pausedTwice : Session := (((offered steppedSession 530).suspend 540).1.resume 560).1

lemma run_pausedTwice : run (mode deps) (sampleSession 5) pausedTwiceOps = pausedTwice := by
  rw [pausedTwiceOps, run_append, run_stepped (by decide)]
  rfl

/-- Of the 120 ms until 650 the session was paused for 20. -/
lemma pausedTwice_due : dueSyntheticEnvelope deps pausedTwice 650
    = some (implicitAccept deps pausedTwice (sampleRecord 530 500) 650) := by
  have hsound := (Sound.of_begun sampleSession_begun (by decide)).run pausedTwiceOps
  have hget := offerAt_paused steppedSession 530 540 560
  have hbanked : pausedTwice.accumulatedSuspendedMs = 520 := rfl
  have hpauses : pausedTwice.suspensionIntervals = [(20, 520), (540, 560)] := rfl
  have htimeout : implicitAcceptTimeoutMs deps pausedTwice = 100 := rfl
  rw [run_pausedTwice] at hsound
  rw [dueSyntheticEnvelope_of_pending hsound hget rfl (by rw [htimeout]; decide) (by decide),
    htimeout, if_neg ?_, Session.unsuspendedDeadline, hpauses]
  · rfl
  · rw [implicitAcceptElapsedMs, if_pos hsound.rev, rev2ElapsedMs, hbanked]
    decide

theorem implicit_accept_stamp_paused :
    dueSyntheticEnvelope deps (run (mode deps) (sampleSession 5) pausedTwiceOps) 650
      = some (implicitAccept deps pausedTwice (sampleRecord 530 500) 650)
    ∧ ∃ k o, offerAt deps (run (mode deps) (sampleSession 5) pausedTwiceOps) k = some o
      ∧ o.disposition = .Offered
      ∧ "implicit-accept:h" = implicitAcceptMessageIdPrefix ++ o.handoffId
      ∧ (650 : Int64) ≤ 650
      ∧ o.offeredAtMs.toInt + (implicitAcceptTimeoutMs deps (run (mode deps) (sampleSession 5)
          pausedTwiceOps)).toInt ≤ (650 : Int64).toInt := by
  have hops : Along (mode deps) (fun s op => op.Accounted s) (sampleSession 5) pausedTwiceOps := by
    refine along_append.mpr ⟨⟨trivial, fun _ => by decide, fun _ p hp => ?_, trivial⟩, trivial,
      fun _ => ?_, trivial⟩
    · obtain rfl := List.mem_singleton.mp hp
      decide
    · rw [run_stepped (by decide)]
      decide
  have hdue := (congrArg (dueSyntheticEnvelope deps · 650) run_pausedTwice).trans pausedTwice_due
  exact ⟨hdue,
    implicit_accept_stamp sampleSession_begun (by decide) pausedTwiceOps hops 650 hdue⟩

/-- **A stamp from the future**: the session pauses from 20 to 520, the clock steps back, and an
offer with a timeout of 100 ms is accepted at 10.  At 110 its accept is due, stamped 610. -/
theorem pause_before_offer_stamps_future :
    SessionBegun deps.prost (mode deps) (sampleSession 5)
      ∧ 2 ≤ (sampleSession 5).semanticsRev
      ∧ ∃ env, dueSyntheticEnvelope deps (run (mode deps) (sampleSession 5)
            [Op.suspend 20, .resume 520, .step sampleOffer 10]) 110 = some env
        ∧ env.timestampUnixMs = 610 ∧ ¬ env.timestampUnixMs ≤ 110 := by
  have hsound := (Sound.of_begun sampleSession_begun (by decide)).run
    [Op.suspend 20, .resume 520, .step sampleOffer 10]
  rw [run_stepped (by decide)] at hsound ⊢
  have hget : offerAt deps (offered steppedSession 10) "h" = some (sampleRecord 10 500) :=
    offerAt_offered steppedSession 10
  have hdue : dueSyntheticEnvelope deps (offered steppedSession 10) 110
      = some (implicitAccept deps (offered steppedSession 10) (sampleRecord 10 500) 610) :=
    dueSyntheticEnvelope_of_pending hsound hget rfl (by decide) (by decide) 110
  refine ⟨sampleSession_begun, by decide, _, hdue, rfl, ?_⟩
  change ¬ (610 : Int64) ≤ 110
  decide

end Handoff

end MacpRuntime
