import MacpRuntime.Handoff.Stamp
import MacpRuntime.Server.Runtime

/-!
The implicit accept and the session's own deadline, which the message path tests before anything is
synthesized, and the timer does not.

* `Op.Timely`: the calls that respect the deadline: a timer tick finds an open session within its
  deadline, and no pause saturates the bank;
* `implicit_accept_within_ttl`: **in a run of timely calls at non-decreasing clocks nothing is
  emitted with a stamp past the deadline in force**;
* `sweep_eq_advance`: the server's sweep is a timer tick whose append may fail;
* `timer_emits_past_deadline`: a timer tick past the deadline emits an accept stamped past it.
-/

namespace MacpRuntime

section Calls

variable {mode : Mode}

/-! ### Emissions -/

/-- The emissions of the loop of `advance`, each with the session it was made on. -/
def emissions (mode : Mode) (nowMs : Int64) : ℕ → Session → List (Session × Envelope)
  | 0, _ => []
  | budget + 1, s =>
    match nextSynthetic s mode nowMs with
    | .ok (some syn) =>
      (s, syn.envelope) :: emissions mode nowMs budget (commitSynthetic s syn).1
    | _ => []

/-- They are the envelopes that the loop returns. -/
lemma emissions_envelopes (nowMs : Int64) (budget : ℕ) (s : Session) :
    (emissions mode nowMs budget s).map (·.2) = (advanceLoop mode nowMs budget s).2.1 := by
  induction budget generalizing s with
  | zero =>
    rcases hn : nextSynthetic s mode nowMs with e | _ | syn
    · rw [advanceLoop_of_error hn]; rfl
    · rw [advanceLoop_of_none hn]; rfl
    · rw [advanceLoop_zero hn]; rfl
  | succ n ih =>
    rcases hn : nextSynthetic s mode nowMs with e | _ | syn
    · rw [advanceLoop_of_error hn, emissions, hn]; rfl
    · rw [advanceLoop_of_none hn, emissions, hn]; rfl
    · rw [advanceLoop_succ hn, emissions, hn]
      dsimp only
      rw [List.map_cons, ih]

/-- What a call emits: a step emits only once its message has passed the checks that come
first. -/
def Op.emissions (mode : Mode) (s : Session) : Op → List (Session × Envelope)
  | .step env nowMs =>
    match checkPreconditions s env nowMs, admitEnvelope s env mode with
    | .ok .Proceed, .ok _ => MacpRuntime.emissions mode nowMs maxSyntheticPerStep s
    | _, _ => []
  | .advance nowMs => MacpRuntime.emissions mode nowMs maxSyntheticPerStep s
  | _ => []

variable {env : Envelope} {nowMs : Int64} {s : Session} {last : ℤ}

/-- An accepted step returns what it emitted. -/
lemma step_emissions {state : SessionState} {synthesized : List Envelope}
    (h : (step s env mode nowMs).2 = .ok (.Accepted state synthesized)) :
    ((Op.step env nowMs).emissions mode s).map (·.2) = synthesized := by
  have hcase := step_cases mode s env nowMs
  generalize step s env mode nowMs = r at h hcase
  cases hcase with
  | refused _ => cases h
  | duplicate _ => cases h
  | expired _ => cases h
  | notAdmitted _ _ => cases h
  | stuck _ _ _ => cases h
  | rejected _ _ _ _ => cases h
  | accepted hpre hadm hadv _ =>
    cases h
    have hloop : (advanceLoop mode nowMs maxSyntheticPerStep s).2.1 = synthesized := by
      rw [advance] at hadv
      dsimp only at hadv
      split at hadv
      · cases hadv
      · exact Except.ok.inj hadv
    rw [Op.emissions, hpre, hadm]
    dsimp only
    rw [emissions_envelopes, hloop]

/-- A step emits on a session that its message may proceed on. -/
lemma mem_step_emissions {e : Session × Envelope} (he : e ∈ (Op.step env nowMs).emissions mode s) :
    checkPreconditions s env nowMs = .ok .Proceed
      ∧ e ∈ MacpRuntime.emissions mode nowMs maxSyntheticPerStep s := by
  rw [Op.emissions] at he
  split at he
  · rename_i hpre _
    exact ⟨hpre, he⟩
  · cases he

/-- A message proceeds only within the deadline. -/
lemma within_of_proceed (h : checkPreconditions s env nowMs = .ok .Proceed) :
    nowMs ≤ s.ttlExpiry := by
  obtain ⟨_, _, hpassed, hopen⟩ := checkPreconditions_eq_proceed h
  rw [Session.deadlinePassed, hopen, decide_eq_false_iff_not] at hpassed
  exact Int64.not_lt.mp hpassed

/-! ### Timely calls -/

/-- A timer tick finds an open session within its deadline, and a resume does not saturate the
bank. -/
def Op.Timely (s : Session) : Op → Prop
  | .advance nowMs => s.state = .Open → nowMs ≤ s.ttlExpiry
  | .resume nowMs => s.state = .Suspended →
      s.accumulatedSuspendedMs.toInt + (s.banked nowMs).toInt ≤ i64Max
  | _ => True

/-- The recorded pauses, and the beginning of the one in progress, lie in the past. -/
structure PausesPast (last : ℤ) (s : Session) : Prop where
  recorded : ∀ p ∈ s.suspensionIntervals, p.1 ≤ p.2 ∧ p.2.toInt ≤ last
  current : s.state = .Suspended → ∀ a, s.suspendedAtMs = some a → a.toInt ≤ last

lemma PausesPast.mono {now : ℤ} (h : PausesPast last s) (hle : last ≤ now) : PausesPast now s :=
  ⟨fun p hp => ⟨(h.recorded p hp).1, (h.recorded p hp).2.trans hle⟩,
    fun hsusp a ha => (h.current hsusp a ha).trans hle⟩

/-- A resume records a pause that lies in the past. -/
lemma PausesPast.resume (h : PausesPast nowMs.toInt s) (hrev : 2 ≤ s.semanticsRev) :
    PausesPast nowMs.toInt (s.resume nowMs).1 := by
  by_cases hsusp : s.state = .Suspended
  · obtain ⟨_, hints⟩ := Session.resume_records hrev hsusp nowMs
    have hnone := (Session.resume_state hsusp nowMs).1
    refine ⟨fun p hp => ?_, fun _ a ha => ?_⟩
    · rw [hints, List.mem_append, List.mem_singleton] at hp
      rcases hp with hp | rfl
      · exact h.recorded p hp
      · refine ⟨?_, le_rfl⟩
        rw [Int64.le_iff_toInt_le]
        cases hat : s.suspendedAtMs with
        | none => exact le_rfl
        | some a => exact h.current hsusp a hat
    · rw [hnone] at ha
      cases ha
  · rwa [Session.resume, if_pos hsusp]

/-- Every call at a later clock keeps the pauses in the past. -/
lemma PausesPast.apply (h : PausesPast last s) (hrev : 2 ≤ s.semanticsRev) (op : Op)
    (hclock : last ≤ op.clockFrom last) : PausesPast (op.clockFrom last) (op.apply mode s) := by
  have hlater := h.mono hclock
  have hother (hs : ∀ c, op ≠ .suspend c) (hr : ∀ c, op ≠ .resume c) :
      PausesPast (op.clockFrom last) (op.apply mode s) := by
    have hsame : s.SamePauses (op.apply mode s) := Op.samePauses hs hr s
    refine ⟨hsame.intervals ▸ hlater.recorded, fun hsusp a ha => ?_⟩
    rcases hsame.state with ⟨hstate, hat⟩ | hterminal
    · exact hlater.current (hstate ▸ hsusp) a (hat ▸ ha)
    · rw [hsusp] at hterminal
      cases hterminal
  cases op with
  | step env nowMs => exact hother (by simp) (by simp)
  | advance nowMs => exact hother (by simp) (by simp)
  | suspend nowMs =>
    rw [Op.apply, Session.suspend]
    split_ifs
    · exact hlater
    · refine ⟨hlater.recorded, fun _ a ha => ?_⟩
      cases ha
      exact le_rfl
  | resume nowMs => exact PausesPast.resume hlater hrev
  | cancel => exact hother (by simp) (by simp)
  | expire => exact hother (by simp) (by simp)

/-- Timely calls at a clock after the recorded pauses are accounted. -/
lemma Op.Timely.accounted {op : Op} (h : op.Timely s) (hpast : PausesPast last s)
    (hclock : last ≤ op.clockFrom last) : op.Accounted s := by
  cases op with
  | step env nowMs =>
    intro _ p hp
    obtain ⟨hle, hend⟩ := hpast.recorded p hp
    have hnow : last ≤ nowMs.toInt := hclock
    rw [Int64.le_iff_toInt_le] at hle
    rw [Int64.lt_iff_toInt_lt, Int64.le_iff_toInt_le]
    omega
  | resume nowMs => exact h
  | advance nowMs => trivial
  | suspend nowMs => trivial
  | cancel => trivial
  | expire => trivial

end Calls

namespace Handoff

variable {d : Deps}

/-! ### Runs of timely calls -/

/-- What a run of timely calls keeps. -/
structure OnTime (d : Deps) (last : ℤ) (s : Session) : Prop where
  sound : Sound d s
  counted : Counted d s
  past : PausesPast last s

variable {last : ℤ} {s : Session} {nowMs : Int64}

lemma OnTime.apply (h : OnTime d last s) {op : Op} (hop : op.Timely s)
    (hclock : last ≤ op.clockFrom last) : OnTime d (op.clockFrom last) (op.apply (mode d) s) :=
  ⟨h.sound.run [op], h.counted.apply h.sound (hop.accounted h.past hclock),
    h.past.apply h.sound.rev op hclock⟩

lemma OnTime.run (h : OnTime d last s) {ops : List Op}
    (hclocks : (last :: clocks ops).Pairwise (· ≤ ·))
    (hops : Along (mode d) (fun s op => op.Timely s) s ops) :
    OnTime d (lastClock last ops) (run (mode d) s ops) := by
  induction ops generalizing last s with
  | nil => exact h
  | cons op ops ih =>
    obtain ⟨hclock, hrest⟩ := pairwise_clocks_cons hclocks
    exact ih (h.apply hops.1 hclock) hrest hops.2

/-- A session that begins has no pause behind it, whatever the clock. -/
lemma OnTime.of_begun (hbegun : SessionBegun d.prost (mode d) s) (hrev : 2 ≤ s.semanticsRev)
    (last : ℤ) : OnTime d last s := by
  have hfresh := hbegun.fresh
  refine ⟨Sound.of_begun hbegun hrev, Counted.of_begun hbegun,
    ⟨fun p hp => ?_, fun hsusp => absurd hsusp hfresh.not_suspended⟩⟩
  rw [hfresh.intervals] at hp
  cases hp

/-- Nothing is emitted after an emission. -/
lemma Sound.emissions_emitted (h : Sound d s) {syn : Synthetic}
    (hsyn : nextSynthetic s (mode d) nowMs = .ok (some syn)) (budget : ℕ) :
    MacpRuntime.emissions (mode d) nowMs budget (commitSynthetic s syn).1 = [] := by
  cases budget with
  | zero => rfl
  | succ n => rw [MacpRuntime.emissions, h.nextSynthetic_emitted hsyn]

/-- What is due, and whose reserved id is free, is the one emission. -/
lemma Sound.emissions_of_due (h : Sound d s) (hopen : s.state = .Open) {env : Envelope}
    (hdue : dueSyntheticEnvelope d s nowMs = some env) (hfree : env.messageId ∉ s.seenMessageIds)
    (budget : ℕ) : MacpRuntime.emissions (mode d) nowMs (budget + 1) s = [(s, env)] := by
  obtain ⟨k, o, hget, hpending⟩ := exists_pending_of_due hdue
  obtain ⟨st, hst, _⟩ := h.safe
  rw [offerAt_of_decode hst] at hget
  have hsyn := h.nextSynthetic_of_due hopen hst hget hpending hdue hfree
  rw [MacpRuntime.emissions, hsyn]
  dsimp only
  rw [h.emissions_emitted hsyn]

/-- The emissions on a session that is on time: at most one, made on the session itself, and
stamped no later than the clock. -/
lemma OnTime.emissions (h : OnTime d last s) {budget : ℕ} {e : Session × Envelope}
    (he : e ∈ emissions (mode d) nowMs budget s) :
    e.1 = s ∧ s.state = .Open ∧ e.2.timestampUnixMs ≤ nowMs := by
  cases budget with
  | zero => cases he
  | succ n =>
    rw [MacpRuntime.emissions] at he
    rcases hn : nextSynthetic s (mode d) nowMs with _ | _ | syn
    · rw [hn] at he; cases he
    · rw [hn] at he; cases he
    · obtain ⟨hopen, hdue, _⟩ := nextSynthetic_eq_some hn
      obtain ⟨k, o, hget, hpending⟩ := exists_pending_of_due hdue
      have hstamp := (h.counted.stamp h.sound hget hpending hdue).1
      rw [hn] at he
      dsimp only at he
      rw [h.sound.emissions_emitted hn, List.mem_singleton] at he
      subst he
      exact ⟨rfl, hopen, hstamp⟩

/-- **No implicit accept after the deadline**: in a run of timely calls at non-decreasing clocks,
whatever a call emits is stamped no later than the deadline of the session it was emitted on. -/
theorem implicit_accept_within_ttl {s : Session} (hbegun : SessionBegun d.prost (mode d) s)
    (hrev : 2 ≤ s.semanticsRev) (ops : List Op) (op : Op)
    (hclocks : (clocks (ops ++ [op])).Pairwise (· ≤ ·))
    (hops : Along (mode d) (fun s op => op.Timely s) s (ops ++ [op])) :
    ∀ e ∈ op.emissions (mode d) (run (mode d) s ops),
      e.2.timestampUnixMs ≤ e.1.ttlExpiry := by
  obtain ⟨hbefore, htimely, _⟩ := along_append.mp hops
  -- any bound below every clock starts the account
  have hfloor : ((-2 ^ 63 : ℤ) :: clocks (ops ++ [op])).Pairwise (· ≤ ·) :=
    List.pairwise_cons.mpr ⟨fun c hc => le_of_mem_clocks hc, hclocks⟩
  have htime : OnTime d (lastClock (-2 ^ 63) ops) (run (mode d) s ops) := by
    refine (OnTime.of_begun hbegun hrev _).run ?_ hbefore
    rw [clocks_append, ← List.cons_append] at hfloor
    exact (List.pairwise_append.mp hfloor).1
  have hwithin {nowMs : Int64} (hin : (run (mode d) s ops).state = .Open →
      nowMs ≤ (run (mode d) s ops).ttlExpiry) {e : Session × Envelope}
      (he : e ∈ MacpRuntime.emissions (mode d) nowMs maxSyntheticPerStep (run (mode d) s ops)) :
      e.2.timestampUnixMs ≤ e.1.ttlExpiry := by
    obtain ⟨hsession, hopen, hstamp⟩ := htime.emissions he
    rw [hsession]
    exact Int64.le_trans hstamp (hin hopen)
  intro e he
  cases op with
  | step env nowMs =>
    obtain ⟨hpre, he⟩ := mem_step_emissions he
    exact hwithin (fun _ => within_of_proceed hpre) he
  | advance nowMs => exact hwithin htimely he
  | suspend nowMs => cases he
  | resume nowMs => cases he
  | cancel => cases he
  | expire => cases he

/-- **The server's sweep is a timer tick**: it leaves the session as it was, or as `advance` at
the same clock does. -/
theorem sweep_eq_advance {rt : Runtime} {sessionId : String} {c : Cell}
    (hmode : rt.registries.modes.instantiate c.session.mode = .ok (mode d))
    (h : Sound d c.session) :
    (sweepDueSyntheticAccept rt sessionId c).session = c.session
      ∨ (sweepDueSyntheticAccept rt sessionId c).session
        = (Op.advance c.io.nowMs.1).apply (mode d) c.session := by
  rcases hnow : c.io.nowMs with ⟨nowMs, io⟩
  rw [sweepDueSyntheticAccept, hnow]
  dsimp only
  by_cases hopen : c.session.state = .Open
  · rw [if_neg (not_not.mpr hopen), synthesizeDueAccept, hmode]
    dsimp only
    rcases hn : nextSynthetic c.session (mode d) nowMs with e | _ | syn
    · exact .inl rfl
    · exact .inl rfl
    · dsimp only
      generalize io.append _ = written
      obtain ⟨_ | _, io'⟩ := written
      · exact .inl rfl
      · right
        rw [Op.apply, advance, maxSyntheticPerStep, advanceLoop_succ hn,
          advanceLoop_of_none (h.nextSynthetic_emitted hn nowMs)]
  · exact .inl (by rw [if_pos hopen])

lemma advance_emits_sample (offeredAtMs nowMs : Int64) (hpos : 0 < offeredAtMs)
    (hstep : run (mode deps) (sampleSession 5) [Op.step sampleOffer offeredAtMs]
      = offered (sampleSession 5) offeredAtMs)
    (hlate : 100 ≤ (nowMs.saturatingSub offeredAtMs).saturatingSub 0) :
    ∃ env, (Op.advance nowMs).emissions (mode deps)
        (run (mode deps) (sampleSession 5) [Op.step sampleOffer offeredAtMs])
      = [(offered (sampleSession 5) offeredAtMs, env)]
      ∧ env.timestampUnixMs = offeredAtMs.saturatingAdd 100 := by
  have hsound := (Sound.of_begun sampleSession_begun (by decide)).run
    [Op.step sampleOffer offeredAtMs]
  have hget := offerAt_offered (sampleSession 5) offeredAtMs
  obtain ⟨hbind, hstate, _, hbanked, hints, hseen⟩ :=
    offered_frame (sampleSession 5) offeredAtMs
  rw [hstep] at hsound ⊢
  generalize offered (sampleSession 5) offeredAtMs = s at *
  have htimeout : implicitAcceptTimeoutMs deps s = 100 := by
    rw [implicitAcceptTimeoutMs_congr hbind]
    rfl
  have helapsed : ¬ implicitAcceptElapsedMs s (sampleRecord offeredAtMs 0) nowMs < 100 := by
    rw [implicitAcceptElapsedMs, if_pos hsound.rev, rev2ElapsedMs, hbanked]
    exact Int64.not_lt.mpr hlate
  have hdue := dueSyntheticEnvelope_of_pending hsound hget rfl (by rw [htimeout]; decide) hpos
    nowMs
  have hzero : (sampleSession 5).accumulatedSuspendedMs = 0 := rfl
  rw [htimeout, hzero, if_neg helapsed] at hdue
  refine ⟨_, hsound.emissions_of_due hstate hdue ?_ _, ?_⟩
  · change "implicit-accept:h" ∉ s.seenMessageIds
    rw [hseen]
    decide
  · change s.unsuspendedDeadline offeredAtMs 100 = _
    rw [Session.unsuspendedDeadline, hints]
    rfl

theorem implicit_accept_within_ttl_sample :
    (∃ e ∈ (Op.advance 110).emissions (mode deps) (run (mode deps)
          (sampleSession 5) [Op.step sampleOffer 10]),
        e.2.timestampUnixMs = 110)
    ∧ ∀ e ∈ (Op.advance 110).emissions (mode deps) (run (mode deps)
          (sampleSession 5) [Op.step sampleOffer 10]),
        e.2.timestampUnixMs ≤ e.1.ttlExpiry := by
  constructor
  · obtain ⟨env, hemits, hstamp⟩ :=
      advance_emits_sample 10 110 (by decide) run_sampleOffer (by decide)
    rw [hemits]
    exact ⟨_, List.mem_singleton_self _, hstamp⟩
  · have hlast : Along (mode deps) (fun s op => op.Timely s) (run (mode deps)
        (sampleSession 5) [Op.step sampleOffer 10]) [Op.advance 110] := by
      rw [run_sampleOffer]
      exact ⟨fun _ => by decide, trivial⟩
    exact implicit_accept_within_ttl sampleSession_begun (by decide) [Op.step sampleOffer 10]
      (Op.advance 110) (by decide) (along_append.mpr ⟨⟨trivial, trivial⟩, hlast⟩)

/-- **The timer accepts past the deadline**: the session expires at 1005; an offer with a timeout
of 100 ms is accepted at 950, and at 1050 the timer emits its accept, stamped 1050. -/
theorem timer_emits_past_deadline :
    SessionBegun deps.prost (mode deps) (sampleSession 5)
      ∧ 2 ≤ (sampleSession 5).semanticsRev
      ∧ (clocks ([Op.step sampleOffer 950] ++ [Op.advance 1050])).Pairwise (· ≤ ·)
      ∧ ∃ e ∈ (Op.advance 1050).emissions (mode deps) (run (mode deps)
            (sampleSession 5) [Op.step sampleOffer 950]),
          e.2.timestampUnixMs = 1050 ∧ e.1.ttlExpiry = 1005 := by
  refine ⟨sampleSession_begun, by decide, by decide, ?_⟩
  have hstep : run (mode deps) (sampleSession 5) [Op.step sampleOffer 950]
      = offered (sampleSession 5) 950 :=
    step_sampleOffer (decodeState_of_encoded rfl) (by decide) rfl rfl rfl
  obtain ⟨env, hemits, hstamp⟩ :=
    advance_emits_sample 950 1050 (by decide) hstep (by decide)
  rw [hemits]
  exact ⟨_, List.mem_singleton_self _, hstamp, rfl⟩

end Handoff

end MacpRuntime
