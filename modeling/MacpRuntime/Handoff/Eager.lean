import MacpRuntime.Handoff.Stamp

/-!
An embedder may let a timer call `advance`, or leave it to the next `step` to emit what is due. In a
Handoff session the two agree: the accept takes a reserved id and changes only the mode state, so
**a step may be split into an `advance` and a step** (`eager_lazy_agree`).
-/

namespace MacpRuntime.Handoff

variable {d : Deps}

/-- The ways an `advance` can end on a session: nothing is emitted, or one implicit accept is,
under a reserved id, after which nothing more is emitted. -/
inductive Advanced (d : Deps) (s : Session) (nowMs : Int64) : Prop
  | quiet (hsyn : nextSynthetic s (mode d) nowMs = .ok none)
  | emitted {env : Envelope} {bytes : Bytes}
      (hrev : 2 ≤ s.semanticsRev)
      (hreserved : startsWith env.messageId implicitAcceptMessageIdPrefix = true)
      (hsyn : nextSynthetic s (mode d) nowMs = .ok (some ⟨env, .PersistState bytes⟩))
      (hnext : nextSynthetic (commitSynthetic s ⟨env, .PersistState bytes⟩).1 (mode d) nowMs
        = .ok none)

/-- The id of an implicit accept is reserved. -/
lemma implicitAccept_reserved (s : Session) (o : OfferRecord) (deadline : Int64) :
    startsWith (implicitAccept d s o deadline).messageId implicitAcceptMessageIdPrefix = true := by
  rw [startsWith, List.isPrefixOf_iff_prefix, implicitAccept, String.toList_append]
  exact List.prefix_append _ _

/-- Nothing is due before revision 2. -/
lemma dueSyntheticEnvelope_of_rev {s : Session} (h : s.semanticsRev < 2) (nowMs : Int64) :
    dueSyntheticEnvelope d s nowMs = none := by
  rw [dueSyntheticEnvelope, if_pos h]

lemma Sound.advanced {s : Session} (h : Sound d s) (nowMs : Int64) : Advanced d s nowMs := by
  by_cases hopen : s.state = .Open
  swap
  · exact .quiet (nextSynthetic_of_not_open hopen)
  rcases hdue : dueSyntheticEnvelope d s nowMs with _ | env
  · exact .quiet (nextSynthetic_of_not_due hdue)
  by_cases hfree : env.messageId ∈ s.seenMessageIds
  · exact .quiet (nextSynthetic_of_seen hdue hfree)
  obtain ⟨k, o, hget, hpending⟩ := exists_pending_of_due hdue
  obtain ⟨_, _, henv⟩ := h.due hget hpending hdue
  obtain ⟨st, hst, _⟩ := h.safe
  rw [offerAt_of_decode hst] at hget
  have hsyn := h.nextSynthetic_of_due hopen hst hget hpending hdue hfree
  exact .emitted h.rev (henv ▸ implicitAccept_reserved s o _) hsyn
    (h.nextSynthetic_emitted hsyn nowMs)

/-- In every reached session an `advance` emits at most once. -/
lemma advanced_of_run {s : Session} (hbegun : SessionBegun d.prost (mode d) s) (ops : List Op)
    (nowMs : Int64) : Advanced d (run (mode d) s ops) nowMs := by
  by_cases hrev : 2 ≤ s.semanticsRev
  · exact ((Sound.of_begun hbegun hrev).run ops).advanced nowMs
  · have hlow : (run (mode d) s ops).semanticsRev < 2 :=
      (congrArg (·.semanticsRev) (run_bindings s ops)).trans_lt (Nat.not_le.mp hrev)
    exact .quiet (nextSynthetic_of_not_due (dueSyntheticEnvelope_of_rev hlow nowMs))

/-- An emission takes a reserved id, which no client may use: the same messages pass the
preconditions and the client boundary before and after it. -/
lemma pass_commitSynthetic {s : Session} (hrev : 2 ≤ s.semanticsRev) {syn : Envelope}
    (hreserved : startsWith syn.messageId implicitAcceptMessageIdPrefix = true) (bytes : Bytes)
    (env : Envelope) (nowMs : Int64) :
    checkPreconditions (commitSynthetic s ⟨syn, .PersistState bytes⟩).1 env nowMs = .ok .Proceed
        ∧ admitEnvelope (commitSynthetic s ⟨syn, .PersistState bytes⟩).1 env (mode d) = .ok ()
      ↔ checkPreconditions s env nowMs = .ok .Proceed ∧ admitEnvelope s env (mode d) = .ok () := by
  have hadm : admitEnvelope (commitSynthetic s ⟨syn, .PersistState bytes⟩).1 env (mode d)
      = admitEnvelope s env (mode d) := rfl
  rw [hadm]
  refine and_congr_left fun hok => ?_
  have hne : syn.messageId ≠ env.messageId := by
    intro heq
    obtain ⟨_, hclient⟩ := admitEnvelope_eq_ok hok
    have hclient' : validateClientEnvelope d s env = .ok () := hclient
    rw [validateClientEnvelope, if_neg (Nat.not_lt.mpr hrev), if_pos (heq ▸ hreserved)] at hclient'
    cases hclient'
  have hseen : (s.seenMessageIds.insert syn.messageId).contains env.messageId
      = s.seenMessageIds.contains env.messageId := by
    simp [Std.ExtTreeSet.contains_insert, hne]
  have hpre : checkPreconditions (commitSynthetic s ⟨syn, .PersistState bytes⟩).1 env nowMs
      = checkPreconditions s env nowMs := by
    simp only [checkPreconditions, commitSynthetic, Session.applyModeResponse, hseen]
    rfl
  rw [hpre]

/-- What an `advance` emits, that it leaves nothing more to emit, and that it lets the same
messages through. -/
lemma Advanced.observed {s : Session} {nowMs : Int64} (h : Advanced d s nowMs) :
    ∃ emitted, (advance s (mode d) nowMs).2 = .ok emitted ∧ emitted.length ≤ 1
      ∧ advance (advance s (mode d) nowMs).1 (mode d) nowMs
          = ((advance s (mode d) nowMs).1, .ok [])
      ∧ ∀ env, (checkPreconditions (advance s (mode d) nowMs).1 env nowMs = .ok .Proceed
          ∧ admitEnvelope (advance s (mode d) nowMs).1 env (mode d) = .ok ()
        ↔ checkPreconditions s env nowMs = .ok .Proceed
          ∧ admitEnvelope s env (mode d) = .ok ()) := by
  cases h with
  | quiet hsyn =>
    have hadv := advance_of_none hsyn
    rw [hadv]
    exact ⟨[], rfl, Nat.zero_le 1, hadv, fun _ => Iff.rfl⟩
  | @emitted envelope bytes hrev hreserved hsyn hnext =>
    have hadv := advance_of_last hsyn hnext
    rw [hadv]
    exact ⟨[envelope], rfl, le_rfl, advance_of_none hnext, fun env =>
      pass_commitSynthetic hrev hreserved bytes env nowMs⟩

/-- **Eager and lazy observation agree**: in every reached session, a step is accepted exactly
when it is accepted after an `advance` at the same clock, with the same session left; what the
step alone synthesizes is what the `advance` emits, at most one envelope, and after it nothing
more is emitted. -/
theorem eager_lazy_agree {s : Session} (hbegun : SessionBegun d.prost (mode d) s) (ops : List Op)
    (env : Envelope) (nowMs : Int64) :
    (∀ s' st emitted,
        step (run (mode d) s ops) env (mode d) nowMs = (s', .ok (.Accepted st emitted)) →
        (advance (run (mode d) s ops) (mode d) nowMs).2 = .ok emitted
          ∧ step (advance (run (mode d) s ops) (mode d) nowMs).1 env (mode d) nowMs
            = (s', .ok (.Accepted st [])))
      ∧ (∀ s' st emitted,
        step (advance (run (mode d) s ops) (mode d) nowMs).1 env (mode d) nowMs
            = (s', .ok (.Accepted st emitted)) →
        ∃ synthesized,
          step (run (mode d) s ops) env (mode d) nowMs = (s', .ok (.Accepted st synthesized)))
      ∧ ∃ emitted, (advance (run (mode d) s ops) (mode d) nowMs).2 = .ok emitted
        ∧ emitted.length ≤ 1
        ∧ advance (advance (run (mode d) s ops) (mode d) nowMs).1 (mode d) nowMs
          = ((advance (run (mode d) s ops) (mode d) nowMs).1, .ok []) := by
  obtain ⟨emitted, hadv, hone, hquiet, hpass⟩ := (advanced_of_run hbegun ops nowMs).observed
  generalize run (mode d) s ops = r at hadv hquiet hpass ⊢
  refine ⟨fun s' st synthesized hstep => ?_, fun s' st more hstep => ?_,
    emitted, hadv, hone, hquiet⟩
  · have hsame : synthesized = emitted := by
      obtain ⟨_, _, hadv', _⟩ := step_eq_accepted_iff.mp hstep
      rw [hadv] at hadv'
      exact (Except.ok.inj hadv').symm
    subst hsame
    exact ⟨hadv, (step_advance_iff hadv hquiet (hpass env) s' st).mpr hstep⟩
  · have hnone : more = [] := by
      obtain ⟨_, _, hadv', _⟩ := step_eq_accepted_iff.mp hstep
      rw [hquiet] at hadv'
      exact (Except.ok.inj hadv').symm
    subst hnone
    exact ⟨emitted, (step_advance_iff hadv hquiet (hpass env) s' st).mp hstep⟩

/-- The context of the sample offer. -/
def sampleContext : Envelope :=
  { sampleOffer with
    messageType := "HandoffContext"
    messageId := "m2"
    payload := [0x0A, 1, 104] }

lemma commitSynthetic_persist (s : Session) (env : Envelope) (st : State) :
    decodeState d (commitSynthetic s ⟨env, persist d st⟩).1 = some st
      ∧ (commitSynthetic s ⟨env, persist d st⟩).1.state = s.state :=
  ⟨decodeState_of_encoded rfl, rfl⟩

lemma step_context {s t : Session} {env : Envelope} {nowMs : Int64} {emitted : List Envelope}
    (hpre : checkPreconditions s env nowMs = .ok .Proceed)
    (hadm : admitEnvelope s env (mode d) = .ok ())
    (hadv : advance s (mode d) nowMs = (t, .ok emitted)) (hopen : t.state = .Open) {st : State}
    (hst : decodeState d t = some st) (htype : env.messageType = "HandoffContext")
    {payload : HandoffContextPayload}
    (hdec : d.prost.decodeHandoffContext env.payload = some payload) {o : OfferRecord}
    (hget : st.offer? payload.handoffId = some o) (hsender : o.offeredBy = env.sender) :
    ∃ s', step s env (mode d) nowMs = (s', .ok (.Accepted .Open emitted)) := by
  have hmsg : ∃ st', dispatch t env (mode d) nowMs = .ok (persist d st') := by
    simp only [dispatch, mode, handleMessage, hst, htype]
    rw [if_neg (by decide), if_pos (by decide), handleContext, hdec]
    dsimp only
    rw [hget]
    dsimp only
    rw [if_neg (not_not.mpr hsender)]
    exact ⟨_, rfl⟩
  obtain ⟨st', hmsg⟩ := hmsg
  refine ⟨(commit t env (persist d st') nowMs).1, step_eq_accepted_iff.mpr ?_⟩
  rw [hadv]
  exact ⟨hpre, hadm, rfl, _, hmsg, Prod.ext rfl hopen⟩

lemma step_sampleContext :
    ∃ s' accept, step (run (mode deps) (sampleSession 5)
        [Op.step sampleOffer 10]) sampleContext (mode deps) 110
      = (s', .ok (.Accepted .Open [accept])) := by
  have hsound := (Sound.of_begun sampleSession_begun (by decide)).run [Op.step sampleOffer 10]
  have hpre : checkPreconditions (offered (sampleSession 5) 10) sampleContext 110
      = .ok .Proceed := by
    decide
  have hadm : admitEnvelope (offered (sampleSession 5) 10) sampleContext (mode deps) = .ok () := by
    decide
  rw [run_sampleOffer] at hsound ⊢
  have hsyn := hsound.nextSynthetic_of_due rfl (decodeState_offered _ _)
    (State.offer?_setOffer_self _ _ _) rfl offered_due (by decide)
  have hadv := advance_of_last hsyn (hsound.nextSynthetic_emitted hsyn 110)
  -- the context finds the offer accepted
  obtain ⟨hafter, hstate⟩ := commitSynthetic_persist (d := deps) (offered (sampleSession 5) 10)
    (implicitAccept deps (offered (sampleSession 5) 10) (sampleRecord 10 0) 110)
    ((State.default.setOffer "h" (sampleRecord 10 0)).setOffer "h"
      ((sampleRecord 10 0).accept implicitAcceptReason))
  have hdec : deps.prost.decodeHandoffContext sampleContext.payload = some ⟨"h", "", []⟩ := rfl
  obtain ⟨s', hstep⟩ := step_context hpre hadm hadv hstate hafter rfl hdec
    (State.offer?_setOffer_self _ _ _) rfl
  exact ⟨s', _, hstep⟩

theorem eager_lazy_agree_sample :
    ∃ s' accept,
      step (run (mode deps) (sampleSession 5) [Op.step sampleOffer 10])
          sampleContext (mode deps) 110 = (s', .ok (.Accepted .Open [accept]))
        ∧ (advance (run (mode deps) (sampleSession 5) [Op.step sampleOffer 10])
            (mode deps) 110).2 = .ok [accept]
        ∧ step (advance (run (mode deps) (sampleSession 5)
            [Op.step sampleOffer 10]) (mode deps) 110).1 sampleContext (mode deps) 110
          = (s', .ok (.Accepted .Open [])) := by
  obtain ⟨s', accept, hstep⟩ := step_sampleContext
  exact ⟨s', accept, hstep, (eager_lazy_agree sampleSession_begun [Op.step sampleOffer 10]
    sampleContext 110).1 s' .Open [accept] hstep⟩

end MacpRuntime.Handoff
