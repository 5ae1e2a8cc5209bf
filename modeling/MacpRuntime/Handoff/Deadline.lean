import MacpRuntime.Handoff.Implicit

/-!
The implicit accept does not depend on when it is observed.

An offer that is left outstanding has one instant at which it has had its timeout in unsuspended
time.  Asked before that instant, an open session has nothing due; asked at it or later, however
many pauses came in between, it yields the same envelope, stamped with that instant
(`implicit_accept_instant`): **the decision on the banked total and the timestamp of the walk agree
with the timeline of the pauses since the offer**.
-/

namespace MacpRuntime.Handoff

open Timeline

variable {d : Deps}

/-- The implicit accept of an offer depends on the session's bindings alone. -/
lemma implicitAccept_congr {s s' : Session} (h : s'.bindings = s.bindings) (r : OfferRecord)
    (deadline : Int64) : implicitAccept d s' r deadline = implicitAccept d s r deadline := by
  have hmode : s'.mode = s.mode := congrArg (·.mode) h
  have hid : s'.sessionId = s.sessionId := congrArg (·.sessionId) h
  rw [implicitAccept, implicitAccept, hmode, hid]

/-- The pauses of a run since the session was `base`. -/
def pausesSince (base s : Session) : List (ℤ × ℤ) :=
  toTimeline (s.suspensionIntervals.drop base.suspensionIntervals.length)

/-- Pauses that follow those of `base` are read off the interval list. -/
lemma pausesSince_of_split {base s : Session} {ps : List (Int64 × Int64)}
    (h : s.suspensionIntervals = base.suspensionIntervals ++ ps) :
    pausesSince base s = toTimeline ps := by
  rw [pausesSince, h, List.drop_left]

/-- Before its instant an outstanding offer has not elapsed; from then on it has. -/
lemma elapsed_lt_iff {o timeout now last : ℤ} {ps qs : List (ℤ × ℤ)} (hp : Ordered o ps)
    (hend : lastEnd o ps ≤ last) (hlast : last ≤ now) (hq : Ordered now qs)
    (htimeout : 0 < timeout) :
    now - o - total ps < timeout ↔ now < walk (ps ++ qs) o timeout := by
  have hend' := hend.trans hlast
  have hrun : openUntil o now ps = now - o - total ps := by
    rw [openUntil, hp.pausedUntil_eq_total hend']
  rw [← hrun, ← not_le, ← not_le, le_openUntil_iff hp htimeout (hp.le_lastEnd.trans hend'),
    walk_append_le_iff hp htimeout hend' hq]

/-- The deadline of a due accept is the instant of its timeline. -/
lemma unsuspendedDeadline_eq {s : Session} {before ps : List (Int64 × Int64)} {qs : List (ℤ × ℤ)}
    {o timeout now : Int64} (hsplit : s.suspensionIntervals = before ++ ps)
    (hbefore : ∀ p ∈ before, p.1 < o ∨ p.1 = o ∧ p.2 ≤ o)
    (hp : Ordered o.toInt (toTimeline ps)) (hend : lastEnd o.toInt (toTimeline ps) ≤ now.toInt)
    (hq : Ordered now.toInt qs) (htimeout : 0 < timeout.toInt)
    (hdue : walk (toTimeline ps ++ qs) o.toInt timeout.toInt ≤ now.toInt) :
    s.unsuspendedDeadline o timeout
      = Int64.ofInt (walk (toTimeline ps ++ qs) o.toInt timeout.toInt) := by
  have hwalk := (walk_append_le_iff hp htimeout hend hq).mp hdue
  have happ := walk_append hp htimeout hend hq hwalk
  have hlt := hp.lt_walk htimeout
  have hnow := now.toInt_lt
  have ho := o.le_toInt
  rw [happ]
  apply Int64.toInt_inj.mp
  rw [toInt_unsuspendedDeadline hsplit hbefore hp htimeout,
    Int64.toInt_ofInt_of_le (by omega) (by omega), i64Max]
  omega

/-- What is due at `now`, in terms of the session just after the offer was recorded. -/
lemma Recorded.due_instant {base : Session} (hsound : Sound d base)
    (hbanked : 0 ≤ base.accumulatedSuspendedMs.toInt) {op₀ : Op} {r : OfferRecord}
    (hrec : Recorded op₀ base r) (htimeout : 0 < implicitAcceptTimeoutMs d base)
    (hpos : 0 < r.offeredAtMs)
    (hbefore : ∀ p ∈ base.suspensionIntervals,
      p.1 < r.offeredAtMs ∨ p.1 = r.offeredAtMs ∧ p.2 ≤ r.offeredAtMs)
    {mid later : List Op} {now : Int64}
    (hclocks : (r.offeredAtMs.toInt :: (clocks mid ++ now.toInt :: clocks later)).Pairwise (· ≤ ·))
    (hopen : (run (mode d) base mid).state = .Open) {k : String}
    (hget : offerAt d (run (mode d) base mid) k = some r)
    (hsat : (run (mode d) base mid).accumulatedSuspendedMs ≠ Int64.maxValue) :
    ∃ instant : ℤ,
      IsLeast {t | r.offeredAtMs.toInt ≤ t ∧ (implicitAcceptTimeoutMs d base).toInt
          ≤ openUntil r.offeredAtMs.toInt t
              (pausesSince base (run (mode d) base (mid ++ later)))} instant
      ∧ dueSyntheticEnvelope d (run (mode d) base mid) now
          = if now.toInt < instant then none
            else some (implicitAccept d base r (Int64.ofInt instant)) := by
  have hposInt := Int64.lt_iff_toInt_lt.mp hpos
  have htimeoutInt := Int64.lt_iff_toInt_lt.mp htimeout
  rw [Int64.toInt_zero] at hposInt htimeoutInt
  have hmid : (r.offeredAtMs.toInt :: clocks mid).Pairwise (· ≤ ·) :=
    hclocks.sublist (by simp)
  have hrest := pairwise_lastClock hclocks
  have hlast := List.rel_of_pairwise_cons hrest List.mem_cons_self
  have hnow : r.offeredAtMs.toInt ≤ now.toInt := List.rel_of_pairwise_cons hclocks (by simp)
  have hbind : (run (mode d) base mid).bindings = base.bindings := run_bindings base mid
  -- the timeline up to the observation, and what follows it
  obtain ⟨ps, hps, hvalue⟩ := hrec.elapsed hsound.rev hbanked hposInt.le (mode d) mid hmid
  have hns : (run (mode d) base mid).state ≠ .Suspended := by simp [hopen]
  obtain ⟨qs, hqs⟩ := exists_elapsed (mode d) hns (by omega) (hsound.run mid).rev later
    hrest.of_cons
  have hsplit : (run (mode d) base (mid ++ later)).suspensionIntervals
      = base.suspensionIntervals ++ (ps ++ qs) := by
    rw [run_append, hqs.intervals, hps.intervals, List.append_assoc]
  have hfull : Ordered r.offeredAtMs.toInt (toTimeline ps ++ toTimeline qs) :=
    ordered_append.mpr ⟨hps.ordered, hqs.ordered.mono (hps.ended.trans hlast)⟩
  have hiff := elapsed_lt_iff hps.ordered hps.ended hlast hqs.ordered htimeoutInt
  rw [pausesSince_of_split hsplit, toTimeline_append]
  refine ⟨_, walk_isLeast hfull htimeoutInt, ?_⟩
  rw [dueSyntheticEnvelope_of_pending (hsound.run mid) hget hrec.pending
    ((implicitAcceptTimeoutMs_congr hbind).symm ▸ htimeout) hpos,
    implicitAcceptTimeoutMs_congr hbind, implicitAccept_congr hbind]
  by_cases hearly : now.toInt < walk (toTimeline ps ++ toTimeline qs) r.offeredAtMs.toInt
      (implicitAcceptTimeoutMs d base).toInt
  · rw [if_pos hearly, if_pos]
    rw [Int64.lt_iff_toInt_lt, hvalue hsat now hnow]
    exact hiff.mpr hearly
  · rw [if_neg hearly, if_neg, unsuspendedDeadline_eq hps.intervals hbefore hps.ordered
      (hps.ended.trans hlast) hqs.ordered htimeoutInt (not_lt.mp hearly)]
    rw [Int64.lt_iff_toInt_lt, hvalue hsat now hnow]
    exact mt hiff.mp hearly

/-- **The implicit accept has one instant.**  An offer is recorded by a step at a positive
clock `o`, after every earlier pause began, and calls `mid` at non-decreasing clocks leave the
session open and the offer outstanding, with a banked total that has not saturated.  Then for
every continuation `later` of the timeline, the first instant at which the offer has had its
timeout in unsuspended time decides what is due at `now`: nothing before it, and the one
envelope stamped with it from then on. -/
theorem implicit_accept_instant {s : Session} (hbegun : SessionBegun d.prost (mode d) s)
    (hrev : 2 ≤ s.semanticsRev) (htimeout : 0 < implicitAcceptTimeoutMs d s)
    {pre mid later : List Op} {env : Envelope} {o now : Int64} {k : String} {r r' : OfferRecord}
    (hnew : offerAt d (run (mode d) s pre) k = none)
    (hoffer : offerAt d (run (mode d) s (pre ++ [Op.step env o])) k = some r) (hpos : 0 < o)
    (hbefore : ∀ p ∈ (run (mode d) s (pre ++ [Op.step env o])).suspensionIntervals,
      p.1 < o ∨ p.1 = o ∧ p.2 ≤ o)
    (hclocks : (o.toInt :: (clocks mid ++ now.toInt :: clocks later)).Pairwise (· ≤ ·))
    (hopen : (run (mode d) s (pre ++ [Op.step env o] ++ mid)).state = .Open)
    (hget : offerAt d (run (mode d) s (pre ++ [Op.step env o] ++ mid)) k = some r')
    (hpending : r'.disposition = .Offered)
    (hsat : (run (mode d) s (pre ++ [Op.step env o] ++ mid)).accumulatedSuspendedMs
      ≠ Int64.maxValue) :
    ∃ instant : ℤ,
      IsLeast {t | o.toInt ≤ t ∧ (implicitAcceptTimeoutMs d s).toInt
          ≤ openUntil o.toInt t (pausesSince (run (mode d) s (pre ++ [Op.step env o]))
              (run (mode d) s (pre ++ [Op.step env o] ++ mid ++ later)))} instant
      ∧ dueSyntheticEnvelope d (run (mode d) s (pre ++ [Op.step env o] ++ mid)) now
          = if now.toInt < instant then none
            else some (implicitAccept d s r (Int64.ofInt instant)) := by
  have hsound := Sound.of_begun hbegun hrev
  have hbase := hsound.run (pre ++ [Op.step env o])
  have hbind : (run (mode d) s (pre ++ [Op.step env o])).bindings = s.bindings := run_bindings s _
  have hzero : 0 ≤ s.accumulatedSuspendedMs.toInt := by
    rw [hbegun.fresh.accumulated]
    rfl
  have hrec : Recorded (.step env o) (run (mode d) s (pre ++ [Op.step env o])) r := by
    rw [run_append] at hoffer ⊢
    have hstep : offerAt d ((Op.step env o).apply (mode d) (run (mode d) s pre)) k = some r :=
      hoffer
    exact (records_of_none (hsound.run pre) hnew hstep).2
  obtain ⟨env', hstep⟩ := hrec.by_step
  cases hstep
  -- the offer has been outstanding since, so its record has not changed
  have heq : r' = r := by
    obtain ⟨r₁, hget₁, _, _, hsame⟩ := hbase.keeps mid hoffer
    rw [run_append, hget₁] at hget
    cases hget
    exact hsame hpending
  subst heq
  rw [run_append _ _ mid] at hopen hget hsat ⊢
  rw [List.append_assoc (pre ++ _), run_append _ _ (mid ++ later),
    ← implicitAcceptTimeoutMs_congr hbind]
  have hdue := hrec.due_instant hbase (hzero.trans (run_accumulated_le _ _))
    ((implicitAcceptTimeoutMs_congr hbind).symm ▸ htimeout) hpos hbefore hclocks hopen hget hsat
  simp only [implicitAccept_congr hbind] at hdue
  exact hdue

lemma run_samplePause :
    (run (mode deps) (sampleSession 5)
        ([] ++ [Op.step sampleOffer 10] ++ [Op.suspend 20, .resume 30])).state = .Open
      ∧ offerAt deps (run (mode deps) (sampleSession 5)
          ([] ++ [Op.step sampleOffer 10] ++ [Op.suspend 20, .resume 30])) "h"
          = some (sampleRecord 10 0)
      ∧ (run (mode deps) (sampleSession 5)
          ([] ++ [Op.step sampleOffer 10] ++ [Op.suspend 20, .resume 30])).accumulatedSuspendedMs
          = 10 := by
  rw [List.nil_append, run_append, run_sampleOffer]
  refine ⟨rfl, ?_, rfl⟩
  rw [run_cons, run_cons, run_nil, Op.apply, Op.apply,
    offerAt_congr ((Session.resume_modeState _ _).trans (Session.suspend_modeState _ _)),
    offerAt_offered]
  rfl

theorem implicit_accept_instant_sample :
    ∃ instant : ℤ,
      IsLeast {t | (10 : Int64).toInt ≤ t
          ∧ (implicitAcceptTimeoutMs deps (sampleSession 5)).toInt
            ≤ openUntil (10 : Int64).toInt t (pausesSince
                (run (mode deps) (sampleSession 5) ([] ++ [Op.step sampleOffer 10]))
                (run (mode deps) (sampleSession 5)
                  ([] ++ [Op.step sampleOffer 10] ++ [Op.suspend 20, .resume 30]
                    ++ [Op.suspend 500, .resume 600])))} instant
      ∧ dueSyntheticEnvelope deps (run (mode deps) (sampleSession 5)
            ([] ++ [Op.step sampleOffer 10] ++ [Op.suspend 20, .resume 30])) 130
          = if (130 : Int64).toInt < instant then none
            else some (implicitAccept deps (sampleSession 5) (sampleRecord 10 0)
              (Int64.ofInt instant)) := by
  obtain ⟨hopen, hget, hbanked⟩ := run_samplePause
  refine implicit_accept_instant sampleSession_begun (by decide) (by decide) ?_ ?_ (by decide) ?_
    (by decide) hopen hget rfl ?_
  · rw [run_nil, offerAt_of_decode (decodeState_of_begun sampleSession_begun)]
    simp [State.default, State.offer?]
  · rw [List.nil_append, run_sampleOffer, offerAt_offered]
    rfl
  · intro p hp
    rw [List.nil_append, run_sampleOffer] at hp
    cases hp
  · rw [hbanked]
    decide

lemma zeroStart_accepted :
    acceptSessionStart protobuf (sampleStart []) 0 (mode deps) (some samplePolicy) {}
      = .ok (sampleSession 0) := by
  rfl

/-- **An offer recorded at clock 0 is never due**: the guard on its clock takes it for one
without a clock, although its timeout has passed at 100. -/
theorem offer_at_zero_not_due :
    acceptSessionStart protobuf (sampleStart []) 0 (mode deps) (some samplePolicy) {}
        = .ok (sampleSession 0)
      ∧ offerAt deps (run (mode deps) (sampleSession 0) [Op.step sampleOffer 0]) "h"
          = some (sampleRecord 0 0)
      ∧ (run (mode deps) (sampleSession 0) [Op.step sampleOffer 0]).state = .Open
      ∧ implicitAcceptTimeoutMs deps (sampleSession 0) = 100
      ∧ IsLeast {t : ℤ | 0 ≤ t ∧ 100 ≤ openUntil 0 t
          (pausesSince
            (run (mode deps) (sampleSession 0) [Op.step sampleOffer 0])
            (run (mode deps) (sampleSession 0) [Op.step sampleOffer 0]))} 100
      ∧ dueSyntheticEnvelope deps
          (run (mode deps) (sampleSession 0) [Op.step sampleOffer 0]) 200
          = none := by
  have hbegun : SessionBegun deps.prost (mode deps) (sampleSession 0) :=
    .accepted zeroStart_accepted
  have hsound := (Sound.of_begun hbegun (by decide)).run [Op.step sampleOffer 0]
  have hrun : run (mode deps) (sampleSession 0) [Op.step sampleOffer 0]
      = offered (sampleSession 0) 0 :=
    step_sampleOffer (decodeState_of_encoded rfl) (by decide) rfl rfl rfl
  have hget : offerAt deps (offered (sampleSession 0) 0) "h"
      = some (sampleRecord 0 0) := offerAt_offered (sampleSession 0) 0
  rw [hrun] at hsound ⊢
  refine ⟨zeroStart_accepted, hget, rfl, rfl, ?_, ?_⟩
  · have hleast : IsLeast {t : ℤ | 0 ≤ t ∧ 100 ≤ openUntil 0 t []} (walk [] 0 100) :=
      walk_isLeast trivial (by decide)
    exact hleast
  · by_contra hdue
    obtain ⟨env, hdue⟩ := Option.ne_none_iff_exists'.mp hdue
    exact absurd (hsound.due hget rfl hdue).1 (by decide)

end MacpRuntime.Handoff
