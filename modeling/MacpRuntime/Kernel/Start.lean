import MacpRuntime.Lib.Fallible
import MacpRuntime.Core.SessionStart
import MacpRuntime.Kernel.Step

/-!
Accepting a `SessionStart` (`macp-modes/src/step.rs`): the mode- and policy-independent half
`validateSessionStart`, the finishing half `ValidatedStart.accept`, and their composition
`acceptSessionStart`, the only supported constructor of a client's session.
-/

namespace MacpRuntime

/-- The knobs of `acceptSessionStart`; every one defaults to absent. -/
structure StartOptions where
  strict : Option Bool := none
  descriptorModeVersion : Option String := none
  defaultMaxSuspendMs : Option Int64 := none
  sessionIdValidator : Option (String → Except MacpError Unit) := none
  maxTtlMs : Option Int64 := none

/-- A start that passed every check needing neither the mode nor the policy. -/
structure ValidatedStart where
  payload : SessionStartPayload
  boundModeVersion : Option String
  ttlMs : Int64
  ttlExpiry : Int64
  maxSuspendMs : Int64
  acceptedAtMs : Int64

/-- The base of the TTL deadline: the envelope's timestamp when positive, else the
acceptance clock. -/
def ttlBase (env : Envelope) (acceptedAtMs : Int64) : Int64 :=
  if 0 < env.timestampUnixMs then env.timestampUnixMs else acceptedAtMs

variable (opts : StartOptions)

/-- The suspension cap a start binds: the payload's positive value, else the option's
positive default, else the global default. -/
def StartOptions.boundMaxSuspendMs (payloadValue : Int64) : Int64 :=
  match opts.defaultMaxSuspendMs with
  | some default =>
    if payloadValue ≤ 0 ∧ 0 < default then default else resolveMaxSuspendMs payloadValue
  | none => resolveMaxSuspendMs payloadValue

/-- Whether a payload's mode version contradicts the descriptor's. -/
def StartOptions.versionMismatch (payload : SessionStartPayload) : Bool :=
  match opts.descriptorModeVersion with
  | some descriptor => !payload.modeVersion.isEmpty && payload.modeVersion != descriptor
  | none => false

/-- The session-id format check, or the deployment's own in its place. -/
def StartOptions.checkSessionId (sessionId : String) : Except MacpError Unit :=
  match opts.sessionIdValidator with
  | some validate => validate sessionId
  | none => validateSessionIdForAcceptance sessionId

/-- The canonical contract, when it applies. -/
def validateIfStrict (strict : Bool) (mode : String) (payload : SessionStartPayload) :
    Except MacpError Unit :=
  if strict then validateCanonicalSessionStartPayloadForMode mode payload else .ok ()

/-- The mode- and policy-independent half of a start. -/
def validateSessionStart (prost : Prost) (env : Envelope) (nowMs : Int64) (opts : StartOptions) :
    Except MacpError ValidatedStart := do
  checkEnvelopeShape env
  .refuseIf (env.messageType ≠ "SessionStart" ∨ (trim env.mode).isEmpty) .InvalidEnvelope
  opts.checkSessionId env.sessionId
  let payload ← parseSessionStartPayload prost env.payload
  validateIfStrict (opts.strict.getD (requiresStrictSessionStart env.mode)) env.mode payload
  .refuseIf (opts.versionMismatch payload) .InvalidEnvelope
  let ttlMs ← extractTtlMs payload
  .refuseIf (opts.maxTtlMs.any (· < ttlMs)) .InvalidTtl
  return {
    payload := payload
    boundModeVersion := if payload.modeVersion.isEmpty then opts.descriptorModeVersion else none
    ttlMs := ttlMs
    ttlExpiry := (ttlBase env nowMs).saturatingAdd ttlMs
    maxSuspendMs := opts.boundMaxSuspendMs payload.maxSuspendMs
    acceptedAtMs := nowMs }

namespace ValidatedStart

variable (v : ValidatedStart)

/-- The policy version a start binds: the requested one, which the policy must carry, or
the policy's own id when none was requested. -/
def policyVersion (policy : Option PolicyDefinition) : Except MacpError String :=
  let requested := v.payload.policyVersion
  match policy, requested.isEmpty with
  | none, false => .error .UnknownPolicyVersion
  | some p, false =>
    if p.policyId ≠ requested then .error .UnknownPolicyVersion else .ok requested
  | some p, true => .ok p.policyId
  | none, true => .ok requested

/-- Whether the policy is bound to another mode. -/
def policyModeMismatch (env : Envelope) (policy : Option PolicyDefinition) : Bool :=
  policy.any fun p => p.mode != "*" && p.mode != env.mode

/-- The session a start binds, before the mode has seen it. -/
def bind (env : Envelope) (policyVersion : String) (policy : Option PolicyDefinition) : Session :=
  { Session.builder env.sessionId env.mode env.sender with
    ttlExpiry := v.ttlExpiry
    ttlMs := v.ttlMs
    maxSuspendMs := v.maxSuspendMs
    startedAtUnixMs := v.acceptedAtMs
    participants := v.payload.participants
    intent := v.payload.intent
    modeVersion := v.boundModeVersion.getD v.payload.modeVersion
    configurationVersion := v.payload.configurationVersion
    policyVersion := policyVersion
    contextId := v.payload.contextId
    extensions := v.payload.extensions
    roots := v.payload.roots
    policyDefinition := policy
    semanticsRev := currentSemanticsRev }

/-- Finish a start: bind the policy, run the mode and the client boundary, take the
start's dedup slot and apply the mode's initial state. -/
def accept (env : Envelope) (mode : Mode) (policy : Option PolicyDefinition) :
    Except MacpError Session := do
  let policyVersion ← v.policyVersion policy
  .refuseIf (policyModeMismatch env policy) .InvalidPolicyDefinition
  let session := v.bind env policyVersion policy
  let response ← mode.onSessionStart session env
  mode.validateClientEnvelope session env
  return { session with
    seenMessageIds := session.seenMessageIds.insert env.messageId }.applyModeResponse response

end ValidatedStart

/-- Accept a client `SessionStart` into a new session. -/
def acceptSessionStart (prost : Prost) (env : Envelope) (nowMs : Int64) (mode : Mode)
    (policy : Option PolicyDefinition) (opts : StartOptions) : Except MacpError Session := do
  let v ← validateSessionStart prost env nowMs opts
  v.accept env mode policy

/-! ### What an accepted start has established -/

variable {prost : Prost} {env : Envelope} {nowMs : Int64} {mode : Mode}
  {policy : Option PolicyDefinition} {opts : StartOptions} {v : ValidatedStart} {session : Session}

/-- A validated start decoded its payload, met the contract when strict, and derives
every other field from the payload, the envelope and the clock. -/
lemma validateSessionStart_eq_ok (h : validateSessionStart prost env nowMs opts = .ok v) :
    checkEnvelopeShape env = .ok ()
      ∧ parseSessionStartPayload prost env.payload = .ok v.payload
      ∧ validateIfStrict (opts.strict.getD (requiresStrictSessionStart env.mode)) env.mode v.payload
          = .ok ()
      ∧ extractTtlMs v.payload = .ok v.ttlMs
      ∧ v.ttlExpiry = (ttlBase env nowMs).saturatingAdd v.ttlMs
      ∧ v.acceptedAtMs = nowMs := by
  simp only [validateSessionStart, Except.bind_eq_ok_iff, Except.pure_eq_ok] at h
  obtain ⟨_, hshape, _, _, _, _, payload, hparse, _, hstrict, _, _, ttlMs, httl, _, _, hv⟩ := h
  cases hv
  exact ⟨hshape, hparse, hstrict, httl, rfl, rfl⟩

/-- A validated start says that it is one, and names a mode. -/
lemma validateSessionStart_names (h : validateSessionStart prost env nowMs opts = .ok v) :
    env.messageType = "SessionStart" ∧ env.mode.isEmpty = false := by
  simp only [validateSessionStart, Except.bind_eq_ok_iff, Except.refuseIf_eq_ok] at h
  obtain ⟨_, _, _, hnames, _⟩ := h
  push Not at hnames
  refine ⟨hnames.1, ?_⟩
  by_contra hempty
  have hnone : env.mode = "" := by simpa using hempty
  rw [hnone] at hnames
  exact hnames.2 (by decide)

/-- The policy version a start binds is the definition's own id when the payload named
none, else the payload's. -/
lemma ValidatedStart.policyVersion_eq_ok {version : String}
    (h : v.policyVersion policy = .ok version) :
    version = if v.payload.policyVersion.isEmpty then
        (policy.map (·.policyId)).getD v.payload.policyVersion
      else v.payload.policyVersion := by
  simp only [policyVersion] at h
  split at h
  · cases h
  · rename_i p he
    split_ifs at h with hid
    cases h
    simp [he]
  · rename_i p he
    cases h
    simp [he]
  · rename_i he
    cases h
    simp [he]

/-- A finished start is the bound session with the start's id taken and the mode's
response applied. -/
lemma ValidatedStart.accept_eq_ok (h : v.accept env mode policy = .ok session) :
    ∃ version response, v.policyVersion policy = .ok version
      ∧ mode.onSessionStart (v.bind env version policy) env = .ok response
      ∧ mode.validateClientEnvelope (v.bind env version policy) env = .ok ()
      ∧ session = { v.bind env version policy with
          seenMessageIds := (∅ : Std.ExtTreeSet String).insert env.messageId }.applyModeResponse
            response := by
  simp only [accept, Except.bind_eq_ok_iff, Except.pure_eq_ok] at h
  obtain ⟨version, hversion, _, _, response, hresp, _, hclient, hs⟩ := h
  cases hs
  exact ⟨version, response, hversion, hresp, hclient, rfl⟩

/-- An accepted start splits into its two halves. -/
lemma acceptSessionStart_eq_ok
    (h : acceptSessionStart prost env nowMs mode policy opts = .ok session) :
    ∃ v, validateSessionStart prost env nowMs opts = .ok v
      ∧ v.accept env mode policy = .ok session := by
  rwa [acceptSessionStart, Except.bind_eq_ok_iff] at h

/-! ### A sample start -/

/-- The id of the sample session. -/
def sampleId : String := "11111111-1111-4111-8111-111111111111"

/-- An envelope of the sample session. -/
def sampleMessage (mode messageType messageId sender : String) (payload : Bytes) : Envelope where
  macpVersion := "1.0"
  mode := mode
  messageType := messageType
  messageId := messageId
  sessionId := sampleId
  sender := sender
  timestampUnixMs := 0
  payload := payload

/-- Initiator `a`, participants `a`, `b` and `c`, versions `1` and a TTL of 1000 ms. -/
def sampleStartOf (mode : String) : Envelope :=
  sampleMessage mode "SessionStart" "m0" "a"
    [0x12, 1, 97, 0x12, 1, 98, 0x12, 1, 99, 0x1A, 1, 49, 0x22, 1, 49, 0x30, 0xE8, 7]

/-- The session the sample start becomes at clock 5. -/
def sampleSessionOf (mode : String) (policy : Option PolicyDefinition) (modeState : Bytes) :
    Session :=
  { Session.builder sampleId mode "a" with
    ttlExpiry := 1005
    ttlMs := 1000
    startedAtUnixMs := 5
    participants := ["a", "b", "c"]
    seenMessageIds := (∅ : Std.ExtTreeSet String).insert "m0"
    modeVersion := "1"
    configurationVersion := "1"
    policyVersion := (policy.map (·.policyId)).getD ""
    policyDefinition := policy
    maxSuspendMs := maxSuspendMs
    modeState := modeState }

/-- A commitment of the sample session, neither of whose words decides the outcome. -/
def sampleCommitmentOf (mode messageId : String) (outcomePositive : Bool) : Envelope :=
  sampleMessage mode "Commitment" messageId "a"
    [0x0A, 1, 99, 0x12, 1, 120, 0x1A, 1, 115, 0x22, 1, 114, 0x2A, 1, 49, 0x3A, 1, 49, 0x40,
      if outcomePositive then 1 else 0]

end MacpRuntime
