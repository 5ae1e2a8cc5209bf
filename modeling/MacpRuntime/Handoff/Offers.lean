import MacpRuntime.Kernel.Replay
import MacpRuntime.Kernel.Run
import MacpRuntime.Handoff.Mode

/-!
What a message does to the offers of a handoff session, from revision 2 on.

* `Change`: the five ways an accepted message changes the mode state, with everything the mode
  checked; **every accepted message is one of them** (`handleMessage_change`);
* `move_change`: every move of the kernel leaves the mode state alone or makes one change, by an
  envelope whose `Origin` is the client of a step or the runtime.
-/

namespace MacpRuntime.Handoff

open Std

variable {d : Deps}

/-! ### Offers as a map -/

variable {p : OfferRecord → Bool} {st : State} {k : String} {o : OfferRecord} {s : Session}
  {env : Envelope} {clockMs : Int64}

lemma State.anyOffer_iff : st.anyOffer p = true ↔ ∃ k o, st.offer? k = some o ∧ p o = true := by
  rw [State.anyOffer, List.any_eq_true]
  constructor
  · rintro ⟨⟨k, o⟩, hmem, hp⟩
    exact ⟨k, o, ExtTreeMap.mem_toList_iff_getElem?_eq_some.mp hmem, hp⟩
  · rintro ⟨k, o, hget, hp⟩
    exact ⟨(k, o), ExtTreeMap.mem_toList_iff_getElem?_eq_some.mpr hget, hp⟩

lemma State.not_of_anyOffer_eq_false (h : st.anyOffer p = false) (hget : st.offer? k = some o) :
    p o = false := by
  by_contra hp
  have hany : st.anyOffer p = true := State.anyOffer_iff.mpr ⟨k, o, hget, by simpa using hp⟩
  rw [h] at hany
  cases hany

/-- What a search finds is an offer of the map that passes the test. -/
lemma State.findOffer_eq_some (h : st.findOffer p = some o) :
    ∃ k, st.offer? k = some o ∧ p o = true := by
  rw [State.findOffer, Option.map_eq_some_iff] at h
  obtain ⟨⟨k, o'⟩, hfind, rfl⟩ := h
  have hp := List.find?_some hfind
  have hmem := List.mem_of_find?_eq_some hfind
  exact ⟨k, ExtTreeMap.mem_toList_iff_getElem?_eq_some.mp hmem, hp⟩

/-- A search finds an offer when there is one that passes. -/
lemma State.findOffer_isSome (hget : st.offer? k = some o) (hp : p o = true) :
    (st.findOffer p).isSome = true := by
  rw [State.findOffer, Option.isSome_map, List.find?_isSome]
  exact ⟨(k, o), ExtTreeMap.mem_toList_iff_getElem?_eq_some.mpr hget, hp⟩

lemma State.offer?_setOffer (st : State) (k k' : String) (o : OfferRecord) :
    (st.setOffer k o).offer? k' = if k = k' then some o else st.offer? k' := by
  rw [State.offer?, State.setOffer, ExtTreeMap.getElem?_insert]
  simp only [Std.compare_eq_iff_eq, State.offer?]

lemma State.offer?_setOffer_self (st : State) (k : String) (o : OfferRecord) :
    (st.setOffer k o).offer? k = some o := by
  rw [st.offer?_setOffer, if_pos rfl]

/-- An offer of an updated map is the one just set, or an earlier one under another key. -/
lemma State.setOffer_cases {k' : String} {o' : OfferRecord}
    (h : (st.setOffer k o).offer? k' = some o') :
    (k' = k ∧ o' = o) ∨ (k' ≠ k ∧ st.offer? k' = some o') := by
  rw [st.offer?_setOffer] at h
  split_ifs at h with hk
  · cases h
    exact .inl ⟨hk.symm, rfl⟩
  · exact .inr ⟨Ne.symm hk, h⟩

/-- What holds of the offer just set and of every earlier one holds of all. -/
lemma State.forall_setOffer {P : String → OfferRecord → Prop} (hnew : P k o)
    (hold : ∀ k' o', st.offer? k' = some o' → P k' o') :
    ∀ k' o', (st.setOffer k o).offer? k' = some o' → P k' o' := by
  intro k' o' h
  rcases State.setOffer_cases h with ⟨rfl, rfl⟩ | ⟨_, hget⟩
  · exact hnew
  · exact hold k' o' hget

/-! ### Changes -/

/-- An offer accepted on behalf of its target. -/
def OfferRecord.accept (o : OfferRecord) (reason : String) : OfferRecord :=
  { o with
    disposition := .Accepted
    acceptedBy := some o.targetParticipant
    outcomeReason := some reason }

/-- An offer declined on behalf of its target. -/
def OfferRecord.decline (o : OfferRecord) (reason : String) : OfferRecord :=
  { o with
    disposition := .Declined
    declinedBy := some o.targetParticipant
    outcomeReason := some reason }

/-- The changes an accepted message makes to the mode state `st` of `session`. -/
inductive Change (d : Deps) (session : Session) (env : Envelope) (clockMs : Int64) (st : State) :
    State → Prop
  | offer {payload : HandoffOfferPayload} (htype : env.messageType = "HandoffOffer")
      (hnew : st.offer? payload.handoffId = none)
      (hdeclared : isDeclaredParticipant session.participants payload.targetParticipant = true)
      (hother : payload.targetParticipant ≠ env.sender)
      (hquiet : ∀ k o, st.offer? k = some o → o.disposition = .Declined)
      (hbar : 4 ≤ session.semanticsRev →
        ∀ k o, st.offer? k = some o → o.targetParticipant ≠ payload.targetParticipant) :
      Change d session env clockMs st
        (st.setOffer payload.handoffId (newOffer session env clockMs payload))
  | context (contexts : ExtTreeMap String (List ContextRecord)) :
      Change d session env clockMs st { st with contexts := contexts }
  | accept {payload : HandoffAcceptPayload} {o : OfferRecord}
      (htype : env.messageType = "HandoffAccept")
      (hpayload : d.prost.decodeHandoffAccept env.payload = some payload)
      (hget : st.offer? payload.handoffId = some o) (hpending : o.disposition = .Offered)
      (htarget : env.sender = o.targetParticipant) :
      Change d session env clockMs st (st.setOffer payload.handoffId (o.accept payload.reason))
  | decline {payload : HandoffDeclinePayload} {o : OfferRecord}
      (hget : st.offer? payload.handoffId = some o) (hpending : o.disposition = .Offered)
      (htarget : env.sender = o.targetParticipant) :
      Change d session env clockMs st (st.setOffer payload.handoffId (o.decline payload.reason))
  | commit : Change d session env clockMs st st

section Arms

variable {session : Session} {env : Envelope} {clockMs : Int64} {st : State} {r : ModeResponse}

lemma handleOffer_change (htype : env.messageType = "HandoffOffer")
    (h : handleOffer d session env clockMs st = .ok r) :
    ∃ st', Change d session env clockMs st st' ∧ r = persist d st' := by
  rw [handleOffer] at h
  split at h
  · cases h
  · rename_i payload hdec
    split_ifs at h with hcheck hbar
    simp only [Bool.or_eq_true, not_or, Bool.not_eq_true, Bool.not_eq_false, beq_eq_false_iff_ne,
      Bool.not_eq_true'] at hcheck
    obtain ⟨⟨⟨⟨⟨⟨_, _⟩, hnew⟩, hdeclared⟩, hother⟩, hoffered⟩, haccepted⟩ := hcheck
    cases h
    refine ⟨_, .offer htype ?_ hdeclared hother ?_ ?_, rfl⟩
    · rw [ExtTreeMap.contains_eq_isSome_getElem?, Option.isSome_eq_false_iff,
        Option.isNone_iff_eq_none] at hnew
      exact hnew
    · -- no offer is outstanding and none is accepted, so all are declined
      intro k o hget
      have h1 := State.not_of_anyOffer_eq_false hoffered hget
      have h2 := State.not_of_anyOffer_eq_false haccepted hget
      cases hdisp : o.disposition with
      | Offered => simp [hdisp] at h1
      | Accepted => simp [hdisp] at h2
      | Declined => rfl
    · intro hrev k o hget heq
      have h1 := State.not_of_anyOffer_eq_false hoffered hget
      have h2 := State.not_of_anyOffer_eq_false haccepted hget
      refine hbar ?_
      rw [Bool.and_eq_true, decide_eq_true_eq]
      refine ⟨hrev, State.anyOffer_iff.mpr ⟨k, o, hget, ?_⟩⟩
      cases hdisp : o.disposition with
      | Offered => simp [hdisp] at h1
      | Accepted => simp [hdisp] at h2
      | Declined => simp [heq]

lemma handleContext_change (h : handleContext d env st = .ok r) :
    ∃ st', Change d session env clockMs st st' ∧ r = persist d st' := by
  rw [handleContext] at h
  split at h
  · cases h
  · split at h
    · cases h
    · split_ifs at h
      cases h
      exact ⟨_, .context _, rfl⟩

/-- The implicit arm accepts on behalf of the target, like the explicit one. -/
lemma dispatchImplicitAccept_change {payload : HandoffAcceptPayload}
    (htype : env.messageType = "HandoffAccept")
    (hpayload : d.prost.decodeHandoffAccept env.payload = some payload)
    (h : dispatchImplicitAccept d session env payload st = .ok r) :
    ∃ st', Change d session env clockMs st st' ∧ r = persist d st' := by
  rw [dispatchImplicitAccept] at h
  split_ifs at h
  split at h
  · cases h
  · rename_i o hget
    split_ifs at h with htarget _ _ hpending
    cases h
    exact ⟨_, .accept htype hpayload hget (not_not.mp hpending) (not_not.mp htarget).symm, rfl⟩

lemma handleAccept_change (htype : env.messageType = "HandoffAccept")
    (h : handleAccept d session env st = .ok r) :
    ∃ st', Change d session env clockMs st st' ∧ r = persist d st' := by
  rw [handleAccept] at h
  split at h
  · cases h
  · rename_i payload hpayload
    split at h
    · exact dispatchImplicitAccept_change htype hpayload h
    · split at h
      · cases h
      · rename_i o hget
        split_ifs at h with htarget _ hpending
        cases h
        have hsender : env.sender = o.targetParticipant := (not_not.mp htarget).symm
        refine ⟨_, .accept htype hpayload hget (not_not.mp hpending) hsender, ?_⟩
        rw [OfferRecord.accept, hsender]

lemma handleDecline_change (h : handleDecline d env st = .ok r) :
    ∃ st', Change d session env clockMs st st' ∧ r = persist d st' := by
  rw [handleDecline] at h
  split at h
  · cases h
  · rename_i payload hpayload
    split at h
    · cases h
    · rename_i o hget
      split_ifs at h with htarget _ hpending
      cases h
      have hsender : env.sender = o.targetParticipant := (not_not.mp htarget).symm
      refine ⟨_, .decline hget (not_not.mp hpending) hsender, ?_⟩
      rw [OfferRecord.decline, hsender]

section

variable (hrev : 2 ≤ session.semanticsRev)

include hrev

/-- From revision 2 a commitment changes no offer. -/
lemma interimAccept_of_rev : interimAccept d session clockMs st = st := by
  have hnot : decide (session.semanticsRev < 2) = false := decide_eq_false (by omega)
  rw [interimAccept]
  split
  · rfl
  · dsimp only
    rw [hnot, Bool.and_false, if_neg (by decide)]

lemma handleCommitment_change (h : handleCommitment d session env clockMs st = .ok r) :
    r = .PersistAndResolve (d.codec.encode st) env.payload := by
  rw [handleCommitment] at h
  split at h
  · cases h
  · simp only [interimAccept_of_rev hrev] at h
    split_ifs at h
    split at h
    · cases h
    · cases h
      rfl

/-- **Every accepted message is one change**: the response persists the changed state, and
a commitment also resolves the session. -/
theorem handleMessage_change (hst : decodeState d session = some st)
    (h : handleMessage d session env clockMs = .ok r) :
    ∃ st', Change d session env clockMs st st'
      ∧ (r = persist d st' ∨ r = .PersistAndResolve (d.codec.encode st') env.payload) := by
  rw [handleMessage, hst] at h
  dsimp only at h
  split_ifs at h with ho hc ha hd hm
  · obtain ⟨st', hch, hr⟩ := handleOffer_change (by simpa using ho) h
    exact ⟨st', hch, .inl hr⟩
  · obtain ⟨st', hch, hr⟩ := handleContext_change h
    exact ⟨st', hch, .inl hr⟩
  · obtain ⟨st', hch, hr⟩ := handleAccept_change (by simpa using ha) h
    exact ⟨st', hch, .inl hr⟩
  · obtain ⟨st', hch, hr⟩ := handleDecline_change h
    exact ⟨st', hch, .inl hr⟩
  · exact ⟨st, .commit, .inr (handleCommitment_change hrev h)⟩

end

end Arms

/-! ### Moves -/

/-- A session whose bytes are a written state holds that state. -/
lemma decodeState_of_encoded (h : s.modeState = d.codec.encode st) : decodeState d s = some st := by
  have hne : (d.codec.encode st).isEmpty = false := by
    simpa using d.codec.encode_ne_nil st
  rw [decodeState, h, hne, if_neg (by decide), d.codec.decode_encode]

/-- The mode state depends on the bytes alone. -/
lemma decodeState_congr {s' : Session} (h : s'.modeState = s.modeState) :
    decodeState d s' = decodeState d s := by
  rw [decodeState, decodeState, h]

/-- Where a dispatched envelope comes from, with the clock it is dispatched at.  A client's
envelope has passed the sender rule and the client boundary. -/
inductive Origin (d : Deps) (op : Op) (s : Session) : Envelope → Int64 → Prop
  | synthesized {env : Envelope} {nowMs : Int64} (hop : op.clock = some nowMs)
      (hopen : s.state = .Open) (hdue : dueSyntheticEnvelope d s nowMs = some env) :
      Origin d op s env env.timestampUnixMs
  | client {env : Envelope} {nowMs : Int64} (hop : op = .step env nowMs)
      (hoffer : env.messageType = "HandoffOffer" → env.sender = s.initiatorSender)
      (hexplicit : env.messageType = "HandoffAccept" →
        ∀ payload, d.prost.decodeHandoffAccept env.payload = some payload →
          payload.implicit = false) :
      Origin d op s env nowMs

/-- **What is due**: the implicit accept of an outstanding offer with a positive clock, whose
timeout has elapsed. -/
lemma dueSyntheticEnvelope_eq_some {nowMs : Int64} (h : dueSyntheticEnvelope d s nowMs = some env) :
    ∃ st o, decodeState d s = some st
      ∧ st.findOffer (·.disposition == .Offered) = some o
      ∧ 0 < o.offeredAtMs
      ∧ implicitAcceptTimeoutMs d s ≤ implicitAcceptElapsedMs s o nowMs
      ∧ env = implicitAccept d s o
          (s.unsuspendedDeadline o.offeredAtMs (implicitAcceptTimeoutMs d s)) := by
  rw [dueSyntheticEnvelope] at h
  dsimp only at h
  split_ifs at h with hrev htimeout hempty
  split at h
  · cases h
  · rename_i st hdec
    split at h
    · cases h
    · rename_i o hfind
      split_ifs at h with hclock helapsed
      cases h
      refine ⟨st, o, ?_, hfind, Int64.not_le.mp hclock, Int64.not_lt.mp helapsed, rfl⟩
      rw [decodeState, if_neg hempty, hdec]

/-- Only the initiator passes the sender rule with an offer. -/
lemma authorizeSender_offer (h : authorizeSender d s env = .ok ())
    (htype : env.messageType = "HandoffOffer") : env.sender = s.initiatorSender := by
  rw [authorizeSender, htype, if_neg (by decide), if_pos (by decide)] at h
  split_ifs at h with hsender
  simpa using hsender

/-- Whatever its origin, an offer is sent by the initiator. -/
lemma Origin.sender_eq_initiator {op : Op} (h : Origin d op s env clockMs)
    (htype : env.messageType = "HandoffOffer") : env.sender = s.initiatorSender := by
  cases h with
  | synthesized _ _ hdue =>
    obtain ⟨_, _, _, _, _, _, rfl⟩ := dueSyntheticEnvelope_eq_some hdue
    simp [implicitAccept] at htype
  | client _ hoffer _ => exact hoffer htype

/-- From revision 2 no implicit accept passes the client boundary. -/
lemma validateClientEnvelope_accept (hrev : 2 ≤ s.semanticsRev)
    (h : validateClientEnvelope d s env = .ok ()) (htype : env.messageType = "HandoffAccept")
    {payload : HandoffAcceptPayload}
    (hpayload : d.prost.decodeHandoffAccept env.payload = some payload) :
    payload.implicit = false := by
  rw [validateClientEnvelope, if_neg (by omega)] at h
  split_ifs at h with _ hacc
  · rw [hpayload] at h
    dsimp only at h
    split_ifs at h with himp
    simpa using himp
  · simp [htype] at hacc

/-- An accepted message at revision 2 or later leaves a changed state behind. -/
lemma change_of_onMessageAt {r : ModeResponse} (hrev : 2 ≤ s.semanticsRev)
    (hst : decodeState d s = some st) (h : (mode d).onMessageAt s env ⟨clockMs⟩ = .ok r)
    (s' : Session) :
    ∃ st', decodeState d (s'.applyModeResponse r) = some st'
      ∧ Change d s env clockMs st st' := by
  have hclock : (if 1 ≤ s.semanticsRev then clockMs else env.timestampUnixMs) = clockMs :=
    if_pos (by omega)
  simp only [mode, hclock] at h
  obtain ⟨st', hch, hr⟩ := handleMessage_change hrev hst h
  refine ⟨st', ?_, hch⟩
  rcases hr with rfl | rfl
  · exact decodeState_of_encoded rfl
  · exact decodeState_of_encoded rfl

/-- **A move changes the mode state at most once**, by an envelope with an origin. -/
theorem move_change {op : Op} {s' : Session} (hm : Move (mode d) op s s')
    (hrev : 2 ≤ s.semanticsRev) (hst : decodeState d s = some st) :
    ∃ st', decodeState d s' = some st'
      ∧ (st' = st ∨ ∃ env clockMs, Origin d op s env clockMs
          ∧ Change d s env clockMs st st') := by
  cases hm with
  | @synthetic _ _ syn nowMs hop hsyn =>
    obtain ⟨hopen, hdue, _, _, hmsg⟩ := nextSynthetic_eq_some hsyn
    obtain ⟨st', hst', hch⟩ := change_of_onMessageAt hrev hst hmsg
      { s with seenMessageIds := s.seenMessageIds.insert syn.envelope.messageId }
    exact ⟨st', hst', .inr ⟨_, _, .synthesized hop hopen hdue, hch⟩⟩
  | @commit s₀ _ env r nowMs _ hadm hadv hmsg =>
    -- the message was admitted before `advance`, which changes no binding
    obtain ⟨hauth, hclient⟩ := admitEnvelope_eq_ok hadm
    have hbind : s.bindings = s₀.bindings := hadv ▸ advance_bindings (mode d) s₀ nowMs
    have hinit : s.initiatorSender = s₀.initiatorSender :=
      congrArg Session.Bindings.initiatorSender hbind
    have hrev₀ : 2 ≤ s₀.semanticsRev :=
      hrev.trans_eq (congrArg Session.Bindings.semanticsRev hbind)
    obtain ⟨st', hst', hch⟩ := change_of_onMessageAt hrev hst hmsg
      (Session.recordParticipantActivity
        { s with seenMessageIds := s.seenMessageIds.insert env.messageId } env.sender nowMs)
    refine ⟨st', hst', .inr ⟨env, nowMs, .client rfl (fun htype => ?_) ?_, hch⟩⟩
    · exact (authorizeSender_offer hauth htype).trans hinit.symm
    · exact fun htype _ hpayload => validateClientEnvelope_accept hrev₀ hclient htype hpayload
  | suspend _ => exact ⟨st, hst, .inl rfl⟩
  | @resume _ nowMs _ =>
    refine ⟨st, ?_, .inl rfl⟩
    rw [decodeState_congr (s.resume_modeState nowMs), hst]
  | cancel _ => exact ⟨st, hst, .inl rfl⟩
  | expire _ => exact ⟨st, hst, .inl rfl⟩

/-- A session begins with no offer. -/
lemma decodeState_of_begun {prost : Prost} (h : SessionBegun prost (mode d) s) :
    decodeState d s = some .default := by
  obtain ⟨bound, env, response, _, hresp, rfl⟩ := h.exists_start
  simp only [mode, onSessionStart] at hresp
  split_ifs at hresp
  cases hresp
  exact decodeState_of_encoded rfl

end MacpRuntime.Handoff
