import MacpRuntime.Modes.Builtin
import MacpRuntime.Server.Persisted
import MacpRuntime.Server.Registries

/-!
What a log keeps of a session is enough for its mode.

The log keeps neither the activity maps of a session nor a missing timestamp of an envelope, and
it does not tell a participant's message from the runtime's own.  `Mode.LogFaithful` says that a
mode does not notice: it reads the recorded clock and not the timestamp, it reads no activity,
and what it emits itself is addressed to the session, leaves it open and revokes no sender.

* `Passthrough.mode_logFaithful`, `Builtin.logFaithful`: the modes of a runtime satisfy it, and so
  do those of a registry that holds no others (`ModeRegistry.Shipped`).
-/

namespace MacpRuntime

/-- An envelope with another timestamp. -/
def Envelope.withTimestamp (env : Envelope) (atMs : Int64) : Envelope :=
  { env with timestampUnixMs := atMs }

/-- An emission that the log keeps in full. -/
structure EmissionSound (mode : Mode) (s : Session) (syn : Synthetic) : Prop where
  version : syn.envelope.macpVersion = macpVersion
  mode_eq : syn.envelope.mode = s.mode
  sessionId_eq : syn.envelope.sessionId = s.sessionId
  messageId_ne : syn.envelope.messageId ≠ ""
  messageType_ne : syn.envelope.messageType ≠ "SessionStart"
  open_state : (commitSynthetic s syn).1.state = .Open
  authorizes : ∀ env, mode.authorizeSender s env = .ok () →
    mode.authorizeSender (commitSynthetic s syn).1 env = .ok ()

/-- A mode that does not notice what the log leaves out. -/
structure Mode.LogFaithful (mode : Mode) : Prop where
  onSessionStart : ∀ s env atMs,
    mode.onSessionStart s (env.withTimestamp atMs) = mode.onSessionStart s env
  onMessageAt : ∀ s env atMs ctx, 1 ≤ s.semanticsRev →
    mode.onMessageAt s.forgetActivity (env.withTimestamp atMs) ctx = mode.onMessageAt s env ctx
  authorizeSender : ∀ s env atMs,
    mode.authorizeSender s.forgetActivity (env.withTimestamp atMs) = mode.authorizeSender s env
  emission : ∀ s syn nowMs, nextSynthetic s mode nowMs = .ok (some syn) →
    EmissionSound mode s syn

/-! ### Passthrough -/

theorem Passthrough.mode_logFaithful (prost : Prost) (allowedMessageTypes : List String) :
    (Passthrough.mode prost allowedMessageTypes).LogFaithful where
  onSessionStart _ _ _ := rfl
  onMessageAt _ _ _ _ _ := rfl
  authorizeSender _ _ _ := rfl
  emission s syn nowMs h := by
    obtain ⟨_, hdue, _⟩ := nextSynthetic_eq_some h
    cases hdue

/-! ### Handoff -/

namespace Handoff

variable {d : Deps} {s : Session} {env : Envelope} {r : ModeResponse}

/-- From revision 1 an offer's record does not depend on its envelope's timestamp. -/
lemma newOffer_withTimestamp (hrev : 1 ≤ s.semanticsRev) (env : Envelope) (atMs clockMs : Int64)
    (payload : HandoffOfferPayload) :
    newOffer s.forgetActivity (env.withTimestamp atMs) clockMs payload
      = newOffer s env clockMs payload := by
  have hrev' : 1 ≤ s.forgetActivity.semanticsRev := hrev
  rw [newOffer, newOffer, if_pos hrev', if_pos hrev]
  rfl

lemma handleOffer_withTimestamp (hrev : 1 ≤ s.semanticsRev) (env : Envelope) (atMs clockMs : Int64)
    (st : State) :
    handleOffer d s.forgetActivity (env.withTimestamp atMs) clockMs st
      = handleOffer d s env clockMs st := by
  simp only [handleOffer, newOffer_withTimestamp hrev]
  rfl

lemma handleMessage_withTimestamp (hrev : 1 ≤ s.semanticsRev) (env : Envelope)
    (atMs clockMs : Int64) :
    handleMessage d s.forgetActivity (env.withTimestamp atMs) clockMs
      = handleMessage d s env clockMs := by
  simp only [handleMessage, handleOffer_withTimestamp hrev]
  rfl

lemma dispatchImplicitAccept_eq_ok {payload : HandoffAcceptPayload} {st : State}
    (h : dispatchImplicitAccept d s env payload st = .ok r) : ∃ st', r = persist d st' := by
  unfold dispatchImplicitAccept at h
  split at h
  · cases h
  · split at h
    · cases h
    · split_ifs at h
      cases h
      exact ⟨_, rfl⟩

/-- An accepted accept stores a state and resolves nothing. -/
lemma handleAccept_eq_ok {st : State} (h : handleAccept d s env st = .ok r) :
    ∃ st', r = persist d st' := by
  unfold handleAccept at h
  split at h
  · cases h
  · split at h
    · exact dispatchImplicitAccept_eq_ok h
    · split at h
      · cases h
      · split_ifs at h
        cases h
        exact ⟨_, rfl⟩

/-- A due envelope is the implicit accept of some offer. -/
lemma exists_implicitAccept {nowMs : Int64} (h : dueSyntheticEnvelope d s nowMs = some env) :
    ∃ o deadline, env = implicitAccept d s o deadline := by
  unfold dueSyntheticEnvelope at h
  dsimp only at h
  split_ifs at h
  split at h
  · cases h
  · split at h
    · cases h
    · split_ifs at h
      cases h
      exact ⟨_, _, rfl⟩

/-- The implicit accept stores a state and resolves nothing. -/
lemma onMessageAt_implicitAccept {o : OfferRecord} {deadline : Int64} {ctx : MessageContext}
    (h : (mode d).onMessageAt s (implicitAccept d s o deadline) ctx = .ok r) :
    ∃ st', r = persist d st' := by
  have hmsg : ∀ clockMs, handleMessage d s (implicitAccept d s o deadline) clockMs = .ok r →
      ∃ st', r = persist d st' := by
    intro clockMs h
    unfold handleMessage at h
    split at h
    · cases h
    · exact handleAccept_eq_ok h
  exact hmsg _ h

lemma implicitAccept_messageId_ne (s : Session) (o : OfferRecord) (deadline : Int64) :
    (implicitAccept d s o deadline).messageId ≠ "" := by
  intro h
  have hlen := congrArg String.length h
  rw [show (implicitAccept d s o deadline).messageId
    = implicitAcceptMessageIdPrefix ++ o.handoffId from rfl, String.length_append] at hlen
  have hsixteen : implicitAcceptMessageIdPrefix.length = 16 := by decide
  rw [hsixteen] at hlen
  exact absurd hlen (by simp)

/-- From revision 1 messages are timed by the acceptance clock. -/
lemma onMessageAt_of_rev (hrev : 1 ≤ s.semanticsRev) (env : Envelope) (ctx : MessageContext) :
    (mode d).onMessageAt s env ctx = handleMessage d s env ctx.acceptedAtMs := by
  simp only [mode, hrev, ↓reduceIte]

theorem mode_logFaithful (d : Deps) : (mode d).LogFaithful where
  onSessionStart _ _ _ := rfl
  onMessageAt s env atMs ctx hrev := by
    have hrev' : 1 ≤ s.forgetActivity.semanticsRev := hrev
    rw [onMessageAt_of_rev hrev', onMessageAt_of_rev hrev, handleMessage_withTimestamp hrev]
  authorizeSender _ _ _ := rfl
  emission s syn nowMs h := by
    obtain ⟨hopen, hdue, _, _, hmsg⟩ := nextSynthetic_eq_some h
    obtain ⟨envelope, response⟩ := syn
    obtain ⟨o, deadline, rfl⟩ := exists_implicitAccept hdue
    obtain ⟨st', rfl⟩ := onMessageAt_implicitAccept hmsg
    have htype : "HandoffAccept" ≠ "SessionStart" := by decide
    exact {
      version := rfl
      mode_eq := rfl
      sessionId_eq := rfl
      messageId_ne := implicitAccept_messageId_ne s o deadline
      messageType_ne := htype
      open_state := hopen
      authorizes := fun _ hauth => hauth }

end Handoff

/-- A mode over a stored state that reads neither the activity nor the timestamp. -/
lemma StateMode.mode_logFaithful {σ : Type} {m : StateMode σ}
    (hauthorize : ∀ s env atMs,
      m.authorize s.forgetActivity (env.withTimestamp atMs) = m.authorize s env)
    (hscreen : ∀ env atMs, m.screen (env.withTimestamp atMs) = m.screen env)
    (hhandle : ∀ s env atMs st,
      m.handle s.forgetActivity (env.withTimestamp atMs) st = m.handle s env st) :
    m.mode.LogFaithful where
  onSessionStart _ _ _ := rfl
  onMessageAt s env atMs _ _ := by
    change m.onMessage s.forgetActivity (env.withTimestamp atMs) = m.onMessage s env
    unfold StateMode.onMessage
    rw [hscreen]
    simp only [hhandle]
    rfl
  authorizeSender := hauthorize
  emission s syn nowMs h := by
    obtain ⟨_, hdue, _⟩ := nextSynthetic_eq_some h
    cases hdue

theorem Builtin.logFaithful {mode : Mode} (h : Builtin mode) : mode.LogFaithful := by
  cases h with
  | handoff d => exact Handoff.mode_logFaithful d
  | _ => exact StateMode.mode_logFaithful (fun _ _ _ => rfl) (fun _ _ => rfl) fun _ _ _ _ => rfl

/-- The modes of a registry are the built-in ones and the extensions registered at run time. -/
def ModeRegistry.Shipped (prost : Prost) (registry : ModeRegistry) : Prop :=
  ∀ name mode, registry.instantiate name = .ok mode →
    Builtin mode ∨ ∃ allowed, mode = Passthrough.mode prost allowed

lemma ModeRegistry.Shipped.logFaithful {prost : Prost} {registry : ModeRegistry}
    (h : registry.Shipped prost) {name : String} {mode : Mode}
    (hmode : registry.instantiate name = .ok mode) : mode.LogFaithful := by
  obtain hbuiltin | ⟨allowed, rfl⟩ := h name mode hmode
  · exact hbuiltin.logFaithful
  · exact Passthrough.mode_logFaithful prost allowed

end MacpRuntime
