import MacpRuntime.Kernel.OpenTime
import MacpRuntime.Handoff.Safety

/-!
How an offer comes to be recorded and accepted, call by call.

* `records_of_none`: an offer is recorded by a step, at the step's clock;
* `accepts_of_pending`: an outstanding offer is accepted by an explicit accept of its target, or by
  the envelope that is due on the session before the call;
* `advance_accepts_due`: what is due is emitted, and accepts the offer;
* `no_early_implicit_accept`: **that only after the timeout has passed in open time**.
-/

namespace MacpRuntime.Handoff

open Timeline

variable {d : Deps}

/-- The record of an offer in a session. -/
def offerAt (d : Deps) (s : Session) (k : String) : Option OfferRecord :=
  (decodeState d s).bind (·.offer? k)

variable {s s' : Session} {st : State} {k : String} {o r : OfferRecord} {op : Op} {env : Envelope}
  {nowMs : Int64} {syn : Synthetic}

lemma offerAt_of_decode (h : decodeState d s = some st) (k : String) :
    offerAt d s k = st.offer? k := by
  rw [offerAt, h, Option.bind_some]

lemma offerAt_congr (h : s'.modeState = s.modeState) (k : String) :
    offerAt d s' k = offerAt d s k := by
  rw [offerAt, offerAt, decodeState_congr h]

/-! ### Sound sessions -/

/-- A session of revision 2 or later whose mode state is safe. -/
structure Sound (d : Deps) (s : Session) : Prop where
  rev : 2 ≤ s.semanticsRev
  safe : ∃ st, decodeState d s = some st ∧ st.Safe s.bindings

lemma Sound.of_begun (h : SessionBegun d.prost (mode d) s) (hrev : 2 ≤ s.semanticsRev) :
    Sound d s :=
  ⟨hrev, _, decodeState_of_begun h, State.default_safe _⟩

section

variable (h : Sound d s)

include h

lemma Sound.of_bindings (hbind : s'.bindings = s.bindings) (hst : decodeState d s' = some st)
    (hsafe : st.Safe s.bindings) : Sound d s' :=
  ⟨h.rev.trans_eq (congrArg Session.Bindings.semanticsRev hbind.symm), st, hst, hbind ▸ hsafe⟩

lemma Sound.run (ops : List Op) : Sound d (run (mode d) s ops) := by
  obtain ⟨st, hst, hsafe⟩ := h.safe
  obtain ⟨st', hst', hsafe', _⟩ := run_safe_keeps h.rev hst hsafe ops
  exact h.of_bindings (run_bindings s ops) hst' hsafe'

/-- A run keeps every offer: settled ones as they are, and so those that are still
outstanding at its end. -/
lemma Sound.keeps (ops : List Op) (hget : offerAt d s k = some o) :
    ∃ o', offerAt d (MacpRuntime.run (mode d) s ops) k = some o'
      ∧ o'.targetParticipant = o.targetParticipant
      ∧ (o.disposition ≠ .Offered → o' = o) ∧ (o'.disposition = .Offered → o' = o) := by
  obtain ⟨st, hst, hsafe⟩ := h.safe
  obtain ⟨st', hst', _, hkeeps⟩ := run_safe_keeps h.rev hst hsafe ops
  rw [offerAt_of_decode hst] at hget
  obtain ⟨o', hget', hfacts⟩ := hkeeps k o hget
  exact ⟨o', by rw [offerAt_of_decode hst', hget'], hfacts⟩

/-- A move keeps a session sound. -/
lemma Sound.move (hm : Move (mode d) op s s') : Sound d s' := by
  obtain ⟨st, hst, hsafe⟩ := h.safe
  obtain ⟨st', hst', rfl | ⟨env, clockMs, horigin, hch⟩⟩ := move_change hm h.rev hst
  · exact h.of_bindings hm.bindings_eq hst' hsafe
  · exact h.of_bindings hm.bindings_eq hst' (hch.safe horigin.sender_eq_initiator hsafe)

/-! ### Recording -/

/-- A move brings in an offer only by committing the message of a step. -/
lemma move_records (hm : Move (mode d) op s s') (hnone : offerAt d s k = none)
    (hget : offerAt d s' k = some o) :
    ∃ env at', op = .step env at' ∧ env.messageType = "HandoffOffer"
      ∧ ∃ payload, o = newOffer s env at' payload := by
  obtain ⟨st, hst, _⟩ := h.safe
  rw [offerAt_of_decode hst] at hnone
  obtain ⟨st', hst', rfl | ⟨env, clockMs, horigin, hch⟩⟩ := move_change hm h.rev hst
  · rw [offerAt_of_decode hst', hnone] at hget
    cases hget
  · rw [offerAt_of_decode hst'] at hget
    obtain ⟨htype, hoffer, _⟩ := hch.new_offer hget hnone
    cases horigin with
    | synthesized _ _ hdue =>
      obtain ⟨_, _, _, _, _, _, rfl⟩ := dueSyntheticEnvelope_eq_some hdue
      simp [implicitAccept] at htype
    | client hop _ _ => exact ⟨env, clockMs, hop, htype, hoffer⟩

end

/-- Only a step brings in an offer. -/
lemma offerAt_none_of_moves (hop : ∀ env c, op ≠ .step env c) (h : Sound d s)
    (hnone : offerAt d s k = none) (hms : Moves (mode d) op s s') : offerAt d s' k = none := by
  suffices hP : Sound d s' ∧ offerAt d s' k = none from hP.2
  refine hms.invariant (P := fun t => Sound d t ∧ offerAt d t k = none) ?_ ⟨h, hnone⟩
  rintro t t' hm ⟨hsound, ht⟩
  refine ⟨hsound.move hm, ?_⟩
  by_contra hne
  obtain ⟨o, ho⟩ := Option.ne_none_iff_exists'.mp hne
  obtain ⟨env, c, heq, _⟩ := move_records hsound hm ht ho
  exact hop env c heq

/-- What is known of a session on which `op` has just recorded the offer `o`. -/
structure Recorded (op : Op) (s : Session) (o : OfferRecord) : Prop where
  by_step : ∃ env, op = .step env o.offeredAtMs
  pending : o.disposition = .Offered
  banked : o.suspendedMsAtOffer = s.accumulatedSuspendedMs
  not_suspended : s.state ≠ .Suspended

/-- A step that brings in an offer is an offer message, and records it at its own clock. -/
lemma step_records (h : Sound d s) (hnone : offerAt d s k = none)
    (hget : offerAt d (step s env (mode d) nowMs).1 k = some o) :
    env.messageType = "HandoffOffer"
      ∧ Recorded (.step env nowMs) (step s env (mode d) nowMs).1 o := by
  have hsame : s.SamePauses (step s env (mode d) nowMs).1 :=
    (Op.step env nowMs).samePauses (by simp) (by simp) s
  have hadvMoves : Moves (mode d) (.advance nowMs) s (advance s (mode d) nowMs).1 :=
    Op.apply_moves (.advance nowMs) s
  have hadvNone := offerAt_none_of_moves (by simp) h hnone hadvMoves
  have hcase := step_cases (mode d) s env nowMs
  generalize step s env (mode d) nowMs = r at hget hsame hcase ⊢
  -- in every case but the last the mode state is one in which the offer is absent
  cases hcase with
  | refused _ => simp [hnone] at hget
  | duplicate _ => simp [hnone] at hget
  | expired _ =>
    rw [offerAt_congr s.expire_modeState, hnone] at hget
    cases hget
  | notAdmitted _ _ => simp [hnone] at hget
  | stuck _ _ _ => simp [hadvNone] at hget
  | rejected _ _ _ _ => simp [hadvNone] at hget
  | accepted hpre hadm _ hmsg =>
    have hsound : Sound d (advance s (mode d) nowMs).1 :=
      hadvMoves.invariant (P := Sound d) (fun _ _ hm hs => hs.move hm) h
    obtain ⟨_, _, hop, htype, payload, rfl⟩ :=
      move_records hsound (.commit hpre hadm rfl hmsg) hadvNone hget
    cases hop
    have hrev : 1 ≤ (advance s (mode d) nowMs).1.semanticsRev := by
      have := hsound.rev
      omega
    refine ⟨htype, ⟨env, ?_⟩, rfl, ?_, ?_⟩
    · simp [newOffer, hrev]
    · simp [newOffer, MacpRuntime.commit, Session.recordParticipantActivity]
    · have hopen := (checkPreconditions_eq_proceed hpre).2.2.2
      intro hsusp
      rcases hsame.state with ⟨hst, _⟩ | hterm
      · rw [hopen, hsusp] at hst
        cases hst
      · rw [hsusp] at hterm
        cases hterm

/-- **An offer is recorded by the step of an offer message, at the step's clock.** -/
theorem records_of_none (h : Sound d s) (hnone : offerAt d s k = none)
    (hget : offerAt d (op.apply (mode d) s) k = some o) :
    (∃ env, op = .step env o.offeredAtMs ∧ env.messageType = "HandoffOffer")
      ∧ Recorded op (op.apply (mode d) s) o := by
  have hother (hop : ∀ env c, op ≠ .step env c) : False := by
    rw [offerAt_none_of_moves hop h hnone (op.apply_moves s)] at hget
    cases hget
  cases op with
  | step env nowMs =>
    obtain ⟨htype, hrec⟩ := step_records h hnone hget
    obtain ⟨env', hop⟩ := hrec.by_step
    refine ⟨⟨env', hop, ?_⟩, hrec⟩
    cases hop
    exact htype
  | advance nowMs => exact (hother (by simp)).elim
  | suspend nowMs => exact (hother (by simp)).elim
  | resume nowMs => exact (hother (by simp)).elim
  | cancel => exact (hother (by simp)).elim
  | expire => exact (hother (by simp)).elim

/-- An offer present at the end of a run was recorded by one of its calls. -/
lemma exists_recording (h : Sound d s) (ops : List Op) (hnone : offerAt d s k = none)
    (hget : offerAt d (run (mode d) s ops) k = some o) :
    ∃ pre op mid o₀, ops = pre ++ op :: mid ∧ offerAt d (run (mode d) s pre) k = none
      ∧ offerAt d (run (mode d) s (pre ++ [op])) k = some o₀
      ∧ Recorded op (run (mode d) s (pre ++ [op])) o₀ := by
  induction ops generalizing s with
  | nil =>
    rw [run_nil, hnone] at hget
    cases hget
  | cons op ops ih =>
    cases hop : offerAt d (op.apply (mode d) s) k with
    | none =>
      have hsound : Sound d (op.apply (mode d) s) := h.run [op]
      obtain ⟨pre, op', mid, o₀, rfl, hpre, hafter, hrec⟩ := ih hsound hop hget
      exact ⟨op :: pre, op', mid, o₀, rfl, hpre, hafter, hrec⟩
    | some o₀ => exact ⟨[], op, ops, o₀, rfl, hnone, hop, (records_of_none h hnone hop).2⟩

/-! ### Accepting -/

/-- A message that turns an outstanding offer into an accepted one is an accept of its
target. -/
lemma Change.accept_of_pending {clockMs : Int64} {st' : State} (hch : Change d s env clockMs st st')
    {o' : OfferRecord} (hget : st.offer? k = some o) (hpending : o.disposition = .Offered)
    (hget' : st'.offer? k = some o') (haccepted : o'.disposition = .Accepted) :
    env.messageType = "HandoffAccept" ∧ env.sender = o.targetParticipant
      ∧ ∃ payload, d.prost.decodeHandoffAccept env.payload = some payload
        ∧ payload.handoffId = k := by
  have hsame : st.offer? k ≠ some o' := by
    rw [hget]
    rintro ⟨⟩
    rw [hpending] at haccepted
    cases haccepted
  cases hch with
  | offer _ hnew _ _ _ _ =>
    rcases State.setOffer_cases hget' with ⟨rfl, -⟩ | ⟨_, hold⟩
    · rw [hnew] at hget
      cases hget
    · exact absurd hold hsame
  | context contexts => exact absurd hget' hsame
  | @accept payload o₁ htype hpayload hget₁ _ htarget =>
    rcases State.setOffer_cases hget' with ⟨rfl, -⟩ | ⟨_, hold⟩
    · rw [hget] at hget₁
      cases hget₁
      exact ⟨htype, htarget, payload, hpayload, rfl⟩
    · exact absurd hold hsame
  | decline _ _ _ =>
    rcases State.setOffer_cases hget' with ⟨rfl, rfl⟩ | ⟨_, hold⟩
    · cases haccepted
    · exact absurd hold hsame
  | commit => exact absurd hget' hsame

/-- The call commits an explicit accept of the offer `k`, sent by `target`. -/
def ExplicitAccept (d : Deps) (op : Op) (k target : String) : Prop :=
  ∃ env nowMs payload, op = .step env nowMs ∧ env.messageType = "HandoffAccept"
    ∧ env.sender = target ∧ d.prost.decodeHandoffAccept env.payload = some payload
    ∧ payload.handoffId = k ∧ payload.implicit = false

/-- The envelope due on the open session `s`, at the clock of the call, is the implicit accept
of the offer `o`. -/
def DueAccept (d : Deps) (op : Op) (s : Session) (o : OfferRecord) : Prop :=
  ∃ nowMs, op.clock = some nowMs ∧ s.state = .Open
    ∧ dueSyntheticEnvelope d s nowMs = some (implicitAccept d s o
        (s.unsuspendedDeadline o.offeredAtMs (implicitAcceptTimeoutMs d s)))

section

variable (h : Sound d s)

include h

/-- What is due on a sound session with an outstanding offer is the accept of that offer. -/
lemma Sound.due (hget : offerAt d s k = some o) (hpending : o.disposition = .Offered)
    (hdue : dueSyntheticEnvelope d s nowMs = some env) :
    0 < o.offeredAtMs ∧ implicitAcceptTimeoutMs d s ≤ implicitAcceptElapsedMs s o nowMs
      ∧ env = implicitAccept d s o
          (s.unsuspendedDeadline o.offeredAtMs (implicitAcceptTimeoutMs d s)) := by
  obtain ⟨st, hst, hsafe⟩ := h.safe
  obtain ⟨st₁, o₁, hst₁, hfind, hclock, helapsed, henv⟩ := dueSyntheticEnvelope_eq_some hdue
  rw [hst] at hst₁
  cases hst₁
  rw [offerAt_of_decode hst] at hget
  obtain ⟨k₁, hget₁, hpending₁⟩ := State.findOffer_eq_some hfind
  -- at most one offer is not declined
  have hkey : k = k₁ := by
    refine hsafe.single k o k₁ o₁ hget hget₁ (by simp [hpending]) ?_
    intro hdeclined
    simp [hdeclined] at hpending₁
  subst hkey
  rw [hget] at hget₁
  cases hget₁
  exact ⟨hclock, helapsed, henv⟩

/-- A move accepts an outstanding offer explicitly, or because it is due. -/
lemma move_accepts (hm : Move (mode d) op s s') {o' : OfferRecord} (hget : offerAt d s k = some o)
    (hpending : o.disposition = .Offered) (hget' : offerAt d s' k = some o')
    (haccepted : o'.disposition = .Accepted) :
    ExplicitAccept d op k o.targetParticipant ∨ DueAccept d op s o := by
  obtain ⟨st, hst, _⟩ := h.safe
  obtain ⟨st', hst', rfl | ⟨env, clockMs, horigin, hch⟩⟩ := move_change hm h.rev hst
  · rw [offerAt_of_decode hst, ← offerAt_of_decode hst', hget'] at hget
    cases hget
    rw [hpending] at haccepted
    cases haccepted
  · have hget₁ := hget
    rw [offerAt_of_decode hst] at hget₁
    rw [offerAt_of_decode hst'] at hget'
    obtain ⟨htype, hsender, payload, hpayload, hkey⟩ :=
      hch.accept_of_pending hget₁ hpending hget' haccepted
    cases horigin with
    | @synthesized nowMs hop hopen hdue =>
      obtain ⟨_, _, rfl⟩ := h.due hget hpending hdue
      exact .inr ⟨nowMs, hop, hopen, hdue⟩
    | client hop _ hexplicit =>
      exact .inl ⟨env, clockMs, payload, hop, htype, hsender, hpayload, hkey,
        hexplicit htype payload hpayload⟩

/-- Whatever `advance` emits from a session with an outstanding offer, that offer was due. -/
lemma Sound.dueAccept_of_emission (hop : op.clock = some nowMs) (hget : offerAt d s k = some o)
    (hpending : o.disposition = .Offered) (hsyn : nextSynthetic s (mode d) nowMs = .ok (some syn)) :
    DueAccept d op s o := by
  obtain ⟨hopen, hdue, _⟩ := nextSynthetic_eq_some hsyn
  obtain ⟨_, _, henv⟩ := h.due hget hpending hdue
  exact ⟨nowMs, hop, hopen, henv ▸ hdue⟩

/-- **An outstanding offer is accepted by an explicit accept of its target, or because its
implicit accept is due** on the session before the call. -/
theorem accepts_of_pending {o' : OfferRecord} (hget : offerAt d s k = some o)
    (hpending : o.disposition = .Offered) (hget' : offerAt d (op.apply (mode d) s) k = some o')
    (haccepted : o'.disposition = .Accepted) :
    ExplicitAccept d op k o.targetParticipant ∨ DueAccept d op s o := by
  have hsame : offerAt d s k ≠ some o' := by
    rw [hget]
    rintro ⟨⟩
    rw [hpending] at haccepted
    cases haccepted
  have hkept (heq : (op.apply (mode d) s).modeState = s.modeState) : False := by
    rw [offerAt_congr heq] at hget'
    exact hsame hget'
  cases op with
  | advance nowMs =>
    by_cases hsyn : ∃ syn, nextSynthetic s (mode d) nowMs = .ok (some syn)
    · obtain ⟨syn, hsyn⟩ := hsyn
      exact .inr (h.dueAccept_of_emission rfl hget hpending hsyn)
    · have hself : (advance s (mode d) nowMs).1 = s := advance_eq_self (not_exists.mp hsyn)
      exact (hkept (by rw [Op.apply, hself])).elim
  | step env nowMs =>
    by_cases hsyn : ∃ syn, nextSynthetic s (mode d) nowMs = .ok (some syn)
    · obtain ⟨syn, hsyn⟩ := hsyn
      exact .inr (h.dueAccept_of_emission rfl hget hpending hsyn)
    · -- nothing was emitted, so the message met the session as it was
      have hself : (advance s (mode d) nowMs).1 = s := advance_eq_self (not_exists.mp hsyn)
      have hcase := step_cases (mode d) s env nowMs
      simp only [Op.apply] at hget' hkept
      generalize step s env (mode d) nowMs = r at hget' hkept hcase
      cases hcase with
      | refused _ => exact (hkept rfl).elim
      | duplicate _ => exact (hkept rfl).elim
      | expired _ => exact (hkept s.expire_modeState).elim
      | notAdmitted _ _ => exact (hkept rfl).elim
      | stuck _ _ _ => exact (hkept (by rw [hself])).elim
      | rejected _ _ _ _ => exact (hkept (by rw [hself])).elim
      | accepted hpre hadm _ hmsg =>
        rw [hself] at hget' hmsg
        exact move_accepts h (.commit hpre hadm hself hmsg) hget hpending hget' haccepted
  | suspend nowMs => exact (hkept (s.suspend_modeState nowMs)).elim
  | resume nowMs => exact (hkept (s.resume_modeState nowMs)).elim
  | cancel =>
    refine (hkept ?_).elim
    rw [Op.apply, Session.cancel]
    split_ifs <;> rfl
  | expire => exact (hkept s.expire_modeState).elim

/-! ### Emission -/

/-- What is due on a sound session with an outstanding offer of positive clock: its implicit
accept, once the timeout has elapsed. -/
lemma dueSyntheticEnvelope_of_pending (hget : offerAt d s k = some r)
    (hpending : r.disposition = .Offered) (htimeout : 0 < implicitAcceptTimeoutMs d s)
    (hpos : 0 < r.offeredAtMs) (nowMs : Int64) :
    dueSyntheticEnvelope d s nowMs
      = if implicitAcceptElapsedMs s r nowMs < implicitAcceptTimeoutMs d s then none
        else some (implicitAccept d s r
          (s.unsuspendedDeadline r.offeredAtMs (implicitAcceptTimeoutMs d s))) := by
  obtain ⟨st, hst, hsafe⟩ := h.safe
  have hrev := h.rev
  rw [offerAt_of_decode hst] at hget
  -- the empty state has no offer, so there are bytes to decode
  have hne : s.modeState.isEmpty = false := by
    by_contra hempty
    rw [decodeState, if_pos (by simpa using hempty)] at hst
    cases hst
    simp [State.default, State.offer?] at hget
  have hdec : d.codec.decode s.modeState = some st := by
    rwa [decodeState, hne, if_neg (by decide)] at hst
  obtain ⟨r', hfind⟩ := Option.isSome_iff_exists.mp
    (State.findOffer_isSome (p := (·.disposition == .Offered)) hget (by simp [hpending]))
  have heq : r' = r := by
    obtain ⟨k', hget', hpending'⟩ := State.findOffer_eq_some hfind
    have hkey : k = k' := by
      refine hsafe.single k r k' r' hget hget' (by simp [hpending]) ?_
      intro hdeclined
      simp [hdeclined] at hpending'
    subst hkey
    rw [hget] at hget'
    exact (Option.some.inj hget').symm
  subst heq
  rw [dueSyntheticEnvelope, if_neg (by omega)]
  dsimp only
  rw [if_neg (Int64.not_le.mpr htimeout), hne, if_neg (by decide), hdec]
  dsimp only
  rw [hfind]
  dsimp only
  rw [if_neg (Int64.not_le.mpr hpos)]

end

/-- With no outstanding offer nothing is due. -/
lemma dueSyntheticEnvelope_of_settled (hst : decodeState d s = some st)
    (hnone : ∀ k o, st.offer? k = some o → o.disposition ≠ .Offered) (nowMs : Int64) :
    dueSyntheticEnvelope d s nowMs = none := by
  by_contra hdue
  obtain ⟨env, hdue⟩ := Option.ne_none_iff_exists'.mp hdue
  obtain ⟨st₁, o, hst₁, hfind, _⟩ := dueSyntheticEnvelope_eq_some hdue
  rw [hst] at hst₁
  cases hst₁
  obtain ⟨k, hget, hpending⟩ := State.findOffer_eq_some hfind
  exact hnone k o hget (by simpa using hpending)

/-- The runtime's own accept passes the sender rule and is dispatched. -/
lemma Sound.dispatch_implicitAccept (h : Sound d s) (hst : decodeState d s = some st)
    (hget : st.offer? k = some r) (hpending : r.disposition = .Offered) (deadline : Int64) :
    authorizeSender d s (implicitAccept d s r deadline) = .ok ()
      ∧ (mode d).onMessageAt s (implicitAccept d s r deadline) ⟨deadline⟩
          = .ok (persist d (st.setOffer k (r.accept implicitAcceptReason))) := by
  obtain ⟨st₁, hst₁, hsafe⟩ := h.safe
  have hrev := h.rev
  rw [hst] at hst₁
  cases hst₁
  have hkey : r.handoffId = k := hsafe.keyed k r hget
  subst hkey
  have hmem : r.targetParticipant ∈ s.participants := (hsafe.target _ _ hget).1
  have hdeclared : isDeclaredParticipant s.participants r.targetParticipant = true := by
    simpa [isDeclaredParticipant] using hmem
  constructor
  · simp [authorizeSender, implicitAccept, hdeclared]
  · simp only [mode, handleMessage, hst, implicitAccept, handleAccept,
      d.prost.decode_encodeHandoffAccept, dispatchImplicitAccept]
    simp [hget, hpending, OfferRecord.accept, Nat.not_lt.mpr hrev]

/-- What is due, and whose reserved id is free, is the next emission. -/
lemma Sound.nextSynthetic_of_due (h : Sound d s) (hopen : s.state = .Open)
    (hst : decodeState d s = some st) (hget : st.offer? k = some r)
    (hpending : r.disposition = .Offered) (hdue : dueSyntheticEnvelope d s nowMs = some env)
    (hfree : env.messageId ∉ s.seenMessageIds) :
    nextSynthetic s (mode d) nowMs
      = .ok (some ⟨env, persist d (st.setOffer k (r.accept implicitAcceptReason))⟩) := by
  obtain ⟨_, _, henv⟩ := h.due (by rw [offerAt_of_decode hst, hget]) hpending hdue
  obtain ⟨hauth, hmsg⟩ := h.dispatch_implicitAccept hst hget hpending
    (s.unsuspendedDeadline r.offeredAtMs (implicitAcceptTimeoutMs d s))
  rw [← henv] at hauth hmsg
  have hstamp : env.timestampUnixMs
      = s.unsuspendedDeadline r.offeredAtMs (implicitAcceptTimeoutMs d s) := by
    rw [henv]
    rfl
  have hdue' : (mode d).dueSyntheticEnvelope s nowMs = some env := hdue
  have hauth' : (mode d).authorizeSender s env = .ok () := hauth
  rw [nextSynthetic, if_neg (not_not.mpr hopen), hdue']
  dsimp only
  rw [if_neg (by simpa using hfree), hauth']
  dsimp only
  rw [hstamp, hmsg]

/-- With no outstanding offer nothing is emitted. -/
lemma nextSynthetic_of_settled (hst : decodeState d s = some st)
    (hnone : ∀ k o, st.offer? k = some o → o.disposition ≠ .Offered) (nowMs : Int64) :
    nextSynthetic s (mode d) nowMs = .ok none := by
  have hdue : (mode d).dueSyntheticEnvelope s nowMs = none :=
    dueSyntheticEnvelope_of_settled hst hnone nowMs
  rw [nextSynthetic, hdue]
  split_ifs <;> rfl

/-- After an emission no offer is outstanding. -/
lemma Sound.settled_of_accept (h : Sound d s) (hst : decodeState d s = some st)
    (hget : st.offer? k = some r) (hpending : r.disposition = .Offered) :
    ∀ k' o', (st.setOffer k (r.accept implicitAcceptReason)).offer? k' = some o' →
      o'.disposition ≠ .Offered := by
  obtain ⟨st₁, hst₁, hsafe⟩ := h.safe
  rw [hst] at hst₁
  cases hst₁
  intro k' o' hget'
  rcases State.setOffer_cases hget' with ⟨rfl, rfl⟩ | ⟨hne, hold⟩
  · rintro ⟨⟩
  · intro hpending'
    exact hne (hsafe.single k' o' k r hold hget (by simp [hpending']) (by simp [hpending]))

/-- **What is due is emitted**: on an open session with an outstanding offer whose implicit
accept is due and whose reserved id is free, `advance` accepts the offer. -/
theorem advance_accepts_due (h : Sound d s) (hopen : s.state = .Open)
    (hget : offerAt d s k = some r) (hpending : r.disposition = .Offered)
    (hdue : dueSyntheticEnvelope d s nowMs = some env) (hfree : env.messageId ∉ s.seenMessageIds) :
    offerAt d (advance s (mode d) nowMs).1 k = some (r.accept implicitAcceptReason) := by
  obtain ⟨st, hst, _⟩ := h.safe
  rw [offerAt_of_decode hst] at hget
  have hsyn := h.nextSynthetic_of_due hopen hst hget hpending hdue hfree
  have hafter : decodeState d (commitSynthetic s
      ⟨env, persist d (st.setOffer k (r.accept implicitAcceptReason))⟩).1
        = some (st.setOffer k (r.accept implicitAcceptReason)) := decodeState_of_encoded rfl
  -- after the emission no offer is outstanding, so the loop stops
  have hsettled := h.settled_of_accept hst hget hpending
  rw [advance, maxSyntheticPerStep, advanceLoop_succ hsyn,
    advanceLoop_of_none (nextSynthetic_of_settled hafter hsettled nowMs), offerAt_of_decode hafter,
    State.offer?_setOffer_self]

/-- What is emitted is the implicit accept that was due, and nothing is emitted after it. -/
lemma Sound.nextSynthetic_emitted (h : Sound d s)
    (hsyn : nextSynthetic s (mode d) nowMs = .ok (some syn)) (nowMs' : Int64) :
    nextSynthetic (commitSynthetic s syn).1 (mode d) nowMs' = .ok none := by
  obtain ⟨envelope, response⟩ := syn
  obtain ⟨hopen, hdue, hfree, _⟩ := nextSynthetic_eq_some hsyn
  have hdue' : dueSyntheticEnvelope d s nowMs = some envelope := hdue
  obtain ⟨st, o, hst, hfind, _⟩ := dueSyntheticEnvelope_eq_some hdue'
  obtain ⟨k, hget, hpending⟩ := State.findOffer_eq_some hfind
  have hpending' : o.disposition = .Offered := by simpa using hpending
  have hsyn' := h.nextSynthetic_of_due hopen hst hget hpending' hdue' hfree
  cases hsyn.symm.trans hsyn'
  have hafter : decodeState d (commitSynthetic s
      ⟨envelope, persist d (st.setOffer k (o.accept implicitAcceptReason))⟩).1
        = some (st.setOffer k (o.accept implicitAcceptReason)) := decodeState_of_encoded rfl
  exact nextSynthetic_of_settled hafter (h.settled_of_accept hst hget hpending') nowMs'

/-! ### Never early -/

/-- The elapsed time of an offer, when nothing saturates: the time since it was recorded,
less what was banked since. -/
lemma toInt_rev2ElapsedMs (hoffered : 0 ≤ o.offeredAtMs.toInt)
    (hnow : o.offeredAtMs.toInt ≤ nowMs.toInt) (hbanked : 0 ≤ o.suspendedMsAtOffer.toInt)
    (hgrown : o.suspendedMsAtOffer.toInt ≤ s.accumulatedSuspendedMs.toInt) :
    (rev2ElapsedMs s o nowMs).toInt = nowMs.toInt - o.offeredAtMs.toInt
      - (s.accumulatedSuspendedMs.toInt - o.suspendedMsAtOffer.toInt) := by
  have h₁ := nowMs.toInt_lt
  have h₂ := s.accumulatedSuspendedMs.toInt_lt
  rw [rev2ElapsedMs, Int64.toInt_saturatingSub, Int64.toInt_saturatingSub, Int64.toInt_max,
    Int64.toInt_saturatingSub, Int64.toInt_zero]
  omega

/-- The account of an outstanding offer: as long as the banked total has not saturated, its
elapsed time is the time the session has been open since the offer was recorded. -/
lemma Recorded.elapsed {base : Session} (hrec : Recorded op base o) (hrev : 2 ≤ base.semanticsRev)
    (hbanked : 0 ≤ base.accumulatedSuspendedMs.toInt) (hoffered : 0 ≤ o.offeredAtMs.toInt)
    (mode : Mode) (mid : List Op) (hclocks : (o.offeredAtMs.toInt :: clocks mid).Pairwise (· ≤ ·)) :
    ∃ ps, Elapsed base o.offeredAtMs.toInt (run mode base mid)
        (lastClock o.offeredAtMs.toInt mid) ps
        (openTime mode base o.offeredAtMs.toInt mid)
      ∧ ((run mode base mid).accumulatedSuspendedMs ≠ Int64.maxValue →
          ∀ nowMs : Int64, o.offeredAtMs.toInt ≤ nowMs.toInt →
            (implicitAcceptElapsedMs (run mode base mid) o nowMs).toInt
              = nowMs.toInt - o.offeredAtMs.toInt - total (toTimeline ps)) := by
  obtain ⟨ps, hps⟩ := exists_elapsed mode hrec.not_suspended hoffered hrev mid hclocks
  refine ⟨ps, hps, fun hsat nowMs hnow => ?_⟩
  have hgrown : base.accumulatedSuspendedMs.toInt
      ≤ (run mode base mid).accumulatedSuspendedMs.toInt := run_accumulated_le base mid
  have hexact : (run mode base mid).accumulatedSuspendedMs.toInt
      = base.accumulatedSuspendedMs.toInt + total (toTimeline ps) := by
    have hne : (run mode base mid).accumulatedSuspendedMs.toInt ≠ i64Max :=
      fun h => hsat (Int64.toInt_inj.mp h)
    have hmin := hps.banked
    omega
  have hrev' : 2 ≤ (run mode base mid).semanticsRev :=
    hrev.trans_eq (congrArg Session.Bindings.semanticsRev (run_bindings base mid).symm)
  rw [implicitAcceptElapsedMs, if_pos hrev', toInt_rev2ElapsedMs hoffered hnow
    (hrec.banked ▸ hbanked) (hrec.banked ▸ hgrown), hrec.banked, hexact]
  omega

/-- The timeout of a bound policy, when it fits. -/
lemma toInt_implicitAcceptTimeoutMs {policy : PolicyDefinition} {t : UInt64}
    (hpolicy : s.policyDefinition = some policy)
    (ht : (policyRules d policy).implicitAcceptTimeoutMs = t) (hfits : t.toNat < 2 ^ 63) :
    (implicitAcceptTimeoutMs d s).toInt = t.toNat := by
  rw [implicitAcceptTimeoutMs, hpolicy]
  dsimp only
  rw [ht]
  exact Int64.toInt_toInt64_of_lt hfits

lemma implicitAcceptTimeoutMs_congr (h : s'.bindings = s.bindings) :
    implicitAcceptTimeoutMs d s' = implicitAcceptTimeoutMs d s := by
  have hpolicy : s'.policyDefinition = s.policyDefinition :=
    congrArg Session.Bindings.policyDefinition h
  rw [implicitAcceptTimeoutMs, implicitAcceptTimeoutMs, hpolicy]

/-- When the implicit accept of an offer is due, the session has been open for at least the
timeout since the offer was recorded. -/
lemma Recorded.timeout_le_openTime {base : Session} (hsound : Sound d base)
    (hbanked : 0 ≤ base.accumulatedSuspendedMs.toInt) {op₀ : Op} (hrec : Recorded op₀ base o)
    {mid : List Op} (hclocks : (o.offeredAtMs.toInt :: clocks (mid ++ [op])).Pairwise (· ≤ ·))
    (hsat : (run (mode d) base mid).accumulatedSuspendedMs ≠ Int64.maxValue)
    (hget : offerAt d (run (mode d) base mid) k = some o)
    (hdue : DueAccept d op (run (mode d) base mid) o) :
    (implicitAcceptTimeoutMs d base).toInt
      ≤ openTime (mode d) base o.offeredAtMs.toInt (mid ++ [op]) := by
  obtain ⟨nowMs, hop, hopen, hdue⟩ := hdue
  obtain ⟨hoffered, helapsed, _⟩ := (hsound.run mid).due hget hrec.pending hdue
  rw [implicitAcceptTimeoutMs_congr (run_bindings base mid), Int64.le_iff_toInt_le] at helapsed
  have hpos := Int64.lt_iff_toInt_lt.mp hoffered
  rw [Int64.toInt_zero] at hpos
  rw [clocks_append, clocks_singleton hop] at hclocks
  have hmid : (o.offeredAtMs.toInt :: clocks mid).Pairwise (· ≤ ·) :=
    hclocks.sublist (by simp)
  have hnow : o.offeredAtMs.toInt ≤ nowMs.toInt :=
    List.rel_of_pairwise_cons hclocks (by simp)
  obtain ⟨ps, hps, hvalue⟩ := hrec.elapsed hsound.rev hbanked hpos.le (mode d) mid hmid
  have hclockFrom : op.clockFrom (lastClock o.offeredAtMs.toInt mid) = nowMs.toInt := by
    rw [Op.clockFrom, hop]
    rfl
  have hrun := hps.running hopen
  rw [hvalue hsat nowMs hnow] at helapsed
  rw [openTime_append, openTime, openTime, if_pos hopen, hclockFrom]
  omega

/-- **No early implicit accept**: along a run with non-decreasing clocks whose banked total
has not saturated, an offer becomes accepted only by an explicit accept sent by its target, or
because its implicit accept is due; and then the session has been open for at least the
timeout since the step that recorded the offer. -/
theorem no_early_implicit_accept {s : Session} (hbegun : SessionBegun d.prost (mode d) s)
    (hrev : 2 ≤ s.semanticsRev) {policy : PolicyDefinition}
    (hpolicy : s.policyDefinition = some policy) {t : UInt64}
    (ht : (policyRules d policy).implicitAcceptTimeoutMs = t) (hfits : t.toNat < 2 ^ 63)
    (ops : List Op) (op : Op) (hclocks : (clocks (ops ++ [op])).Pairwise (· ≤ ·))
    (hsat : (run (mode d) s ops).accumulatedSuspendedMs ≠ Int64.maxValue) {k : String}
    {o : OfferRecord} (hget : offerAt d (run (mode d) s (ops ++ [op])) k = some o)
    (haccepted : o.disposition = .Accepted)
    (hbefore : ∀ o', offerAt d (run (mode d) s ops) k = some o' → o'.disposition ≠ .Accepted) :
    ExplicitAccept d op k o.targetParticipant
      ∨ ∃ pre env at' mid o₀, ops = pre ++ Op.step env at' :: mid
        ∧ offerAt d (run (mode d) s pre) k = none
        ∧ offerAt d (run (mode d) s (pre ++ [Op.step env at'])) k = some o₀
        ∧ DueAccept d op (run (mode d) s ops) o₀
        ∧ (t.toNat : ℤ) ≤ openTime (mode d) (run (mode d) s (pre ++ [Op.step env at'])) at'.toInt
            (mid ++ [op]) := by
  have hsound := (Sound.of_begun hbegun hrev).run ops
  have hnone : offerAt d s k = none := by
    rw [offerAt_of_decode (decodeState_of_begun hbegun)]
    simp [State.default, State.offer?]
  have happ : run (mode d) s (ops ++ [op]) = op.apply (mode d) (run (mode d) s ops) := by
    rw [run_append]
    rfl
  rw [happ] at hget
  cases hmid : offerAt d (run (mode d) s ops) k with
  | none =>
    -- an offer is outstanding when it is recorded
    have hpending := (records_of_none hsound hmid hget).2.pending
    rw [hpending] at haccepted
    cases haccepted
  | some o₁ =>
    obtain ⟨o₂, hget₂, htarget, hfrozen, _⟩ := hsound.keeps [op] hmid
    have heq : o₂ = o := Option.some.inj (hget₂.symm.trans hget)
    subst heq
    have hpending : o₁.disposition = .Offered := by
      by_contra hsettled
      rw [hfrozen hsettled] at haccepted
      exact hbefore o₁ hmid haccepted
    rcases accepts_of_pending hsound hmid hpending hget haccepted with hexplicit | hdue
    · left
      rw [htarget]
      exact hexplicit
    · right
      obtain ⟨pre, op₁, mid, o₀, rfl, hpre, hafter, hrec⟩ :=
        exists_recording (Sound.of_begun hbegun hrev) ops hnone hmid
      obtain ⟨env, rfl⟩ := hrec.by_step
      have hsplit : pre ++ Op.step env o₀.offeredAtMs :: mid
          = pre ++ [Op.step env o₀.offeredAtMs] ++ mid := by simp
      -- the offer has been outstanding since, so its record has not changed
      have heq : o₁ = o₀ := by
        obtain ⟨o₃, hget₃, _, _, hpending₃⟩ :=
          ((Sound.of_begun hbegun hrev).run (pre ++ [Op.step env o₀.offeredAtMs])).keeps mid hafter
        rw [hsplit, run_append, hget₃] at hmid
        cases hmid
        exact hpending₃ hpending
      subst heq
      refine ⟨pre, env, o₁.offeredAtMs, mid, o₁, rfl, hpre, hafter, hdue, ?_⟩
      have hzero : 0 ≤ s.accumulatedSuspendedMs.toInt := by
        rw [hbegun.fresh.accumulated]
        rfl
      have hbase := (Sound.of_begun hbegun hrev).run (pre ++ [Op.step env o₁.offeredAtMs])
      have hclocks' : (o₁.offeredAtMs.toInt :: clocks (mid ++ [op])).Pairwise (· ≤ ·) := by
        rw [List.append_assoc, clocks_append] at hclocks
        exact (List.pairwise_append.mp hclocks).2.1
      rw [hsplit, run_append] at hmid hsat hdue
      rw [← toInt_implicitAcceptTimeoutMs hpolicy ht hfits,
        ← implicitAcceptTimeoutMs_congr (run_bindings s (pre ++ [Op.step env o₁.offeredAtMs]))]
      exact hrec.timeout_le_openTime hbase (hzero.trans (run_accumulated_le _ _)) hclocks' hsat
        hmid hdue

/-- The sample session after the offer. -/
def offered (s : Session) (nowMs : Int64) : Session :=
  (commit s sampleOffer (persist deps
    (State.default.setOffer "h" (sampleRecord nowMs s.accumulatedSuspendedMs))) nowMs).1

lemma offered_frame (s : Session) (nowMs : Int64) :
    (offered s nowMs).bindings = s.bindings ∧ (offered s nowMs).state = s.state
      ∧ (offered s nowMs).ttlExpiry = s.ttlExpiry
      ∧ (offered s nowMs).accumulatedSuspendedMs = s.accumulatedSuspendedMs
      ∧ (offered s nowMs).suspensionIntervals = s.suspensionIntervals
      ∧ (offered s nowMs).seenMessageIds = s.seenMessageIds.insert "m1" := by
  rw [offered, persist]
  -- the encoded state is not evaluated
  generalize deps.codec.encode _ = bytes
  exact ⟨rfl, rfl, rfl, rfl, rfl, rfl⟩

lemma sampleOffer_passes (nowMs : Int64) (hst : decodeState deps s = some .default)
    (hparts : s.participants = ["a", "b"]) (hinit : s.initiatorSender = "a")
    (hrev : s.semanticsRev = 4) :
    admitEnvelope s sampleOffer (mode deps) = .ok ()
      ∧ nextSynthetic s (mode deps) nowMs = .ok none
      ∧ dispatch s sampleOffer (mode deps) nowMs = .ok (persist deps
          (State.default.setOffer "h" (sampleRecord nowMs s.accumulatedSuspendedMs))) := by
  have hnone : ∀ k o, State.default.offer? k = some o → o.disposition ≠ .Offered := by
    intro k o h
    simp [State.default, State.offer?] at h
  refine ⟨?_, nextSynthetic_of_settled hst hnone nowMs, ?_⟩
  · simp only [admitEnvelope, mode, authorizeSender, validateClientEnvelope, hinit, hrev]
    rfl
  · have hdec : deps.prost.decodeHandoffOffer sampleOffer.payload = some ⟨"h", "b", "", ""⟩ := rfl
    simp only [dispatch, mode, handleMessage, hst, handleOffer, hdec, hparts, hrev, newOffer]
    rfl

lemma step_sampleOffer (hst : decodeState deps s = some .default)
    (hpre : checkPreconditions s sampleOffer nowMs = .ok .Proceed)
    (hparts : s.participants = ["a", "b"]) (hinit : s.initiatorSender = "a")
    (hrev : s.semanticsRev = 4) : (step s sampleOffer (mode deps) nowMs).1 = offered s nowMs := by
  obtain ⟨hadm, hsyn, hmsg⟩ := sampleOffer_passes nowMs hst hparts hinit hrev
  rw [step_eq_accepted hpre hadm hsyn hmsg]
  rfl

lemma decodeState_offered (s : Session) (nowMs : Int64) :
    decodeState deps (offered s nowMs) = some (State.default.setOffer "h"
      (sampleRecord nowMs s.accumulatedSuspendedMs)) :=
  decodeState_of_encoded (by
    simp only [offered, MacpRuntime.commit, persist, Session.applyModeResponse])

lemma offerAt_offered (s : Session) (nowMs : Int64) :
    offerAt deps (offered s nowMs) "h"
      = some (sampleRecord nowMs s.accumulatedSuspendedMs) := by
  rw [offerAt_of_decode (decodeState_offered s nowMs), State.offer?_setOffer_self]

/-- A pause keeps the offer. -/
lemma offerAt_paused (s : Session) (nowMs fromMs toMs : Int64) :
    offerAt deps (((offered s nowMs).suspend fromMs).1.resume toMs).1 "h"
      = some (sampleRecord nowMs s.accumulatedSuspendedMs) := by
  rw [← offerAt_offered]
  exact offerAt_congr ((Session.resume_modeState _ _).trans (Session.suspend_modeState _ _)) _

lemma advance_sampleOffer (h : Sound deps s) (hopen : s.state = .Open)
    {offeredAtMs bankedMs : Int64}
    (hget : offerAt deps s "h" = some (sampleRecord offeredAtMs bankedMs))
    (htimeout : implicitAcceptTimeoutMs deps s = 100) (hpos : 0 < offeredAtMs)
    (helapsed : 100 ≤ (nowMs.saturatingSub offeredAtMs).saturatingSub
      (max (s.accumulatedSuspendedMs.saturatingSub bankedMs) 0))
    (hfree : "implicit-accept:h" ∉ s.seenMessageIds) :
    offerAt deps (advance s (mode deps) nowMs).1 "h"
      = some ((sampleRecord offeredAtMs bankedMs).accept implicitAcceptReason) := by
  have hdue := dueSyntheticEnvelope_of_pending h hget rfl (by rw [htimeout]; decide) hpos nowMs
  have hlate : ¬ implicitAcceptElapsedMs s (sampleRecord offeredAtMs bankedMs) nowMs < 100 := by
    rw [implicitAcceptElapsedMs, if_pos h.rev]
    exact Int64.not_lt.mpr helapsed
  rw [htimeout, if_neg hlate] at hdue
  exact advance_accepts_due h hopen hget rfl hdue hfree

lemma run_sampleOffer :
    run (mode deps) (sampleSession 5) [Op.step sampleOffer 10]
      = offered (sampleSession 5) 10 :=
  step_sampleOffer (decodeState_of_encoded rfl) (by decide) rfl rfl rfl

lemma run_sampleOffer_advance :
    offerAt deps (run (mode deps) (sampleSession 5)
        ([Op.step sampleOffer 10] ++ [Op.advance 110])) "h"
      = some ((sampleRecord 10 0).accept implicitAcceptReason) := by
  have hsound := (Sound.of_begun sampleSession_begun (by decide)).run [Op.step sampleOffer 10]
  have hget : offerAt deps (offered (sampleSession 5) 10) "h"
      = some (sampleRecord 10 0) := offerAt_offered (sampleSession 5) 10
  have hbanked : (offered (sampleSession 5) 10).accumulatedSuspendedMs = 0 := rfl
  rw [run_sampleOffer] at hsound
  rw [run_append, run_sampleOffer, run_cons, run_nil, Op.apply]
  exact advance_sampleOffer hsound rfl hget rfl (by decide) (by rw [hbanked]; decide) (by decide)

theorem no_early_implicit_accept_sample :
    offerAt deps (run (mode deps) (sampleSession 5)
        ([Op.step sampleOffer 10] ++ [Op.advance 110])) "h"
      = some ((sampleRecord 10 0).accept implicitAcceptReason)
    ∧ (ExplicitAccept deps (.advance 110) "h" "b"
      ∨ ∃ pre env at' mid o₀, [Op.step sampleOffer 10] = pre ++ Op.step env at' :: mid
        ∧ offerAt deps (run (mode deps) (sampleSession 5) pre) "h" = none
        ∧ offerAt deps (run (mode deps) (sampleSession 5)
            (pre ++ [Op.step env at'])) "h" = some o₀
        ∧ DueAccept deps (.advance 110) (run (mode deps) (sampleSession 5)
            [Op.step sampleOffer 10]) o₀
        ∧ ((100 : UInt64).toNat : ℤ) ≤ openTime (mode deps)
            (run (mode deps) (sampleSession 5) (pre ++ [Op.step env at']))
            at'.toInt (mid ++ [Op.advance 110])) := by
  refine ⟨run_sampleOffer_advance, no_early_implicit_accept sampleSession_begun (by decide) rfl
    (t := 100) rfl (by decide) [Op.step sampleOffer 10] (.advance 110) (by decide) ?_
    run_sampleOffer_advance rfl ?_⟩
  · rw [run_sampleOffer]
    decide
  · intro o' hget
    rw [run_sampleOffer, offerAt_offered] at hget
    cases hget
    decide

/-! The banked total saturates when a session accepted long before the epoch, with the largest
cap, is suspended for as long as an `i64` can count. -/

/-- Half the range of the clock. -/
def farMs : Int64 := 4611686018427387904

/-- The largest suspension cap on the wire. -/
def largestCap : Bytes := [0x50, 0xFF, 0xFF, 0xFF, 0xFF, 0xFF, 0xFF, 0xFF, 0xFF, 0x7F]

/-- A session that starts in the far past, with that cap. -/
def farSession : Session := { sampleSession (-farMs - 10) with maxSuspendMs := Int64.maxValue }

/-- The far session after its first pause. -/
def bankedSession : Session :=
  { farSession with
    ttlExpiry := farMs + 989
    accumulatedSuspendedMs := Int64.maxValue
    suspensionIntervals := [(-farMs, farMs - 1)] }

lemma farSession_accepted :
    acceptSessionStart protobuf (sampleStart largestCap) (-farMs - 10) (mode deps)
      (some samplePolicy) {} = .ok farSession := by
  rfl

lemma run_farSession :
    run (mode deps) farSession [Op.suspend (-farMs), .resume (farMs - 1)] = bankedSession := by
  rfl

/-- The calls up to the second pause. -/
def farOps : List Op :=
  [Op.suspend (-farMs), .resume (farMs - 1), .step sampleOffer farMs, .suspend (farMs + 10),
    .resume (farMs + 200)]

/-- The session after the second pause, which the banked total no longer shows. -/
def pausedSession : Session :=
  (((offered bankedSession farMs).suspend (farMs + 10)).1.resume (farMs + 200)).1

lemma run_farOffer :
    run (mode deps) farSession [Op.suspend (-farMs), .resume (farMs - 1), .step sampleOffer farMs]
      = offered bankedSession farMs := by
  have hstep : (step bankedSession sampleOffer (mode deps) farMs).1 = offered bankedSession farMs :=
    step_sampleOffer (decodeState_of_encoded rfl) (by decide) rfl rfl rfl
  rw [← hstep, ← run_farSession]
  rfl

lemma run_farOps : run (mode deps) farSession farOps = pausedSession := by
  have hsplit : farOps = [Op.suspend (-farMs), .resume (farMs - 1), .step sampleOffer farMs]
      ++ [Op.suspend (farMs + 10), .resume (farMs + 200)] := rfl
  rw [hsplit, run_append, run_farOffer]
  rfl

lemma offerAt_pausedSession :
    offerAt deps pausedSession "h" = some (sampleRecord farMs Int64.maxValue) :=
  offerAt_paused bankedSession _ _ _

/-- **A saturated total accepts early**: with a timeout of 100 ms the offer is accepted after
the session has been open for 11. -/
theorem saturated_implicit_accept_early :
    acceptSessionStart protobuf (sampleStart largestCap) (-farMs - 10) (mode deps)
        (some samplePolicy) {} = .ok farSession
      ∧ 2 ≤ farSession.semanticsRev
      ∧ (policyRules deps samplePolicy).implicitAcceptTimeoutMs = 100
      ∧ (clocks (farOps ++ [Op.advance (farMs + 201)])).Pairwise (· ≤ ·)
      ∧ offerAt deps (run (mode deps) farSession farOps) "h"
          = some (sampleRecord farMs Int64.maxValue)
      ∧ offerAt deps (run (mode deps) farSession (farOps ++ [Op.advance (farMs + 201)])) "h"
          = some ((sampleRecord farMs Int64.maxValue).accept implicitAcceptReason)
      ∧ openTime (mode deps)
          (run (mode deps) farSession
            [Op.suspend (-farMs), .resume (farMs - 1), .step sampleOffer farMs]) farMs.toInt
          [Op.suspend (farMs + 10), .resume (farMs + 200), .advance (farMs + 201)] = 11 := by
  have hsound : Sound deps pausedSession := by
    rw [← run_farOps]
    exact (Sound.of_begun (.accepted farSession_accepted) (by decide)).run farOps
  have hbanked : pausedSession.accumulatedSuspendedMs = Int64.maxValue := rfl
  refine ⟨farSession_accepted, by decide, rfl, by decide, ?_, ?_, ?_⟩
  · rw [run_farOps, offerAt_pausedSession]
  · rw [run_append, run_farOps, run_cons, run_nil, Op.apply]
    exact advance_sampleOffer hsound rfl offerAt_pausedSession rfl (by decide)
      (by rw [hbanked]; decide) (by decide)
  · rw [run_farOffer]
    rfl

end MacpRuntime.Handoff
