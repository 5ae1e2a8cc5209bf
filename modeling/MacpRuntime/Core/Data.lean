import MacpRuntime.Lib.JsonGrammar

/-!
The vocabulary of the coordination core: the errors, the envelope and the payloads that travel in
it, the policy definition a session binds, and the response a mode hands back
(`macp-core/src/error.rs`, `mode.rs`, `policy/mod.rs`, `policy/deny.rs`, and the messages of
`macp-pb`).

Byte strings are lists of bytes, `i64` is `Int64`, and ordered and hashed maps are both
`Std.ExtTreeMap`.  `Prost` collects the generated decoders and encoders that are called.
-/

namespace MacpRuntime

/-- A byte string, `Vec<u8>`. -/
abbrev Bytes := List UInt8

/-- One reason a policy denied a commitment. -/
structure DenyReason where
  code : String
  message : String
  participants : List String
  deriving DecidableEq, Repr

/-- The protocol error vocabulary. -/
inductive MacpError where
  | InvalidMacpVersion
  | InvalidEnvelope
  | SessionAlreadyExists
  | UnknownSession
  | SessionNotOpen
  | TtlExpired
  | InvalidTtl
  | UnknownMode
  | InvalidModeState
  | InvalidPayload
  | Forbidden
  | Unauthenticated
  | DuplicateMessage
  | PayloadTooLarge
  | RateLimited
  | StorageFailed
  | InvalidSessionId
  | UnknownPolicyVersion
  | PolicyDenied (reasons : List DenyReason)
  | InvalidPolicyDefinition
  | RegistryReadOnly
  | InvalidRequest
  | StreamLagged
  | AgentNotFound
  | HistoryUnavailable
  | ReceiptUnavailable
  deriving DecidableEq, Repr

/-! ### Envelopes and payloads -/

/-- The protocol version this runtime implements. -/
def macpVersion : String := "1.0"

/-- The message envelope. -/
structure Envelope where
  macpVersion : String
  mode : String
  messageType : String
  messageId : String
  sessionId : String
  sender : String
  timestampUnixMs : Int64
  payload : Bytes
  deriving DecidableEq, Repr

/-- A context root named at session start. -/
structure Root where
  uri : String
  name : String
  deriving DecidableEq, Repr

/-- The payload of a `SessionStart`. -/
structure SessionStartPayload where
  intent : String
  participants : List String
  modeVersion : String
  configurationVersion : String
  policyVersion : String
  ttlMs : Int64
  contextId : String
  extensions : Std.ExtTreeMap String Bytes
  roots : List Root
  maxSuspendMs : Int64

/-- The proto3 default message: every field at its zero value. -/
def SessionStartPayload.empty : SessionStartPayload where
  intent := ""
  participants := []
  modeVersion := ""
  configurationVersion := ""
  policyVersion := ""
  ttlMs := 0
  contextId := ""
  extensions := ∅
  roots := []
  maxSuspendMs := 0

/-- A reference to the commitment another one supersedes. -/
structure CommitmentRef where
  sessionId : String
  commitmentHash : String
  deriving DecidableEq, Repr

/-- The payload of a `Commitment`. -/
structure CommitmentPayload where
  commitmentId : String
  action : String
  authorityScope : String
  reason : String
  modeVersion : String
  policyVersion : String
  configurationVersion : String
  outcomePositive : Bool
  supersedes : Option CommitmentRef
  deriving DecidableEq, Repr

/-- The payload of a `HandoffOffer`. -/
structure HandoffOfferPayload where
  handoffId : String
  targetParticipant : String
  scope : String
  reason : String
  deriving DecidableEq, Repr

/-- The payload of a `HandoffContext`. -/
structure HandoffContextPayload where
  handoffId : String
  contentType : String
  context : Bytes
  deriving DecidableEq, Repr

/-- The payload of a `HandoffAccept`. -/
structure HandoffAcceptPayload where
  handoffId : String
  acceptedBy : String
  reason : String
  implicit : Bool
  deriving DecidableEq, Repr

/-- The payload of a `HandoffDecline`. -/
structure HandoffDeclinePayload where
  handoffId : String
  declinedBy : String
  reason : String
  deriving DecidableEq, Repr

/-- The protobuf library as the kernel and the handoff mode use it: a decoder for
each message they read, and the encoder of the one message the runtime writes
itself, which its decoder reads back. -/
structure Prost where
  decodeSessionStart : Bytes → Option SessionStartPayload
  decodeCommitment : Bytes → Option CommitmentPayload
  decodeHandoffOffer : Bytes → Option HandoffOfferPayload
  decodeHandoffContext : Bytes → Option HandoffContextPayload
  decodeHandoffAccept : Bytes → Option HandoffAcceptPayload
  decodeHandoffDecline : Bytes → Option HandoffDeclinePayload
  encodeHandoffAccept : HandoffAcceptPayload → Bytes
  decode_encodeHandoffAccept : ∀ p, decodeHandoffAccept (encodeHandoffAccept p) = some p

/-! ### Policies -/

/-- A governance policy definition. -/
structure PolicyDefinition where
  policyId : String
  mode : String
  description : String
  rules : Json
  schemaVersion : ℕ

/-- Every schema version a policy may declare, at admission and at evaluation. -/
def supportedSchemaVersions : List ℕ := [1, 2, 3]

/-! ### Modes -/

/-- The result of a mode processing a message. -/
inductive ModeResponse where
  | NoOp
  | PersistState (state : Bytes)
  | Resolve (resolution : Bytes)
  | PersistAndResolve (state resolution : Bytes)
  deriving DecidableEq, Repr

/-- The kernel-supplied context of a message: its acceptance clock. -/
structure MessageContext where
  acceptedAtMs : Int64
  deriving DecidableEq, Repr

end MacpRuntime
