import MacpRuntime.Core.Messages
import MacpRuntime.Kernel.Start
import MacpRuntime.Modes.Util

/-!
The handler of dynamically registered extension modes
(`macp-modes/src/mode/passthrough.rs`): any listed message type is accepted and its payload
becomes the mode state; a commitment of the initiator resolves the session.

`sampleStart` is a start this mode accepts, with two participants and a TTL of one second,
and `sampleSession` the session it becomes.
-/

namespace MacpRuntime.Passthrough

/-- The resolution of a commitment: its action and id, as JSON. -/
def resolution (commitment : CommitmentPayload) : Bytes :=
  Json.toVec (.object [("action", .string commitment.action),
    ("commitment_id", .string commitment.commitmentId)])

/-- Any allowed message is stored; a commitment resolves. -/
def onMessage (prost : Prost) (allowedMessageTypes : List String) (session : Session)
    (env : Envelope) : Except MacpError ModeResponse :=
  if !allowedMessageTypes.isEmpty && !allowedMessageTypes.any (· == env.messageType) then
    .error .InvalidPayload
  else if env.messageType == "Commitment" then
    match validateCommitmentPayloadForSession prost session env.payload with
    | .error e => .error e
    | .ok commitment => .ok (.Resolve (resolution commitment))
  else .ok (.PersistState env.payload)

/-- Only the initiator commits. -/
def authorizeSender (session : Session) (env : Envelope) : Except MacpError Unit :=
  if env.messageType == "Commitment" then
    if env.sender ≠ session.initiatorSender then .error .Forbidden else .ok ()
  else defaultAuthorizeSender session env

/-- `PassthroughMode`. -/
def mode (prost : Prost) (allowedMessageTypes : List String) : Mode where
  onSessionStart := fun _ _ => .ok .NoOp
  onMessage := onMessage prost allowedMessageTypes
  authorizeSender := authorizeSender

/-! ### A sample session -/

/-- An envelope of the sample session. -/
def sampleEnvelope : String → String → String → Bytes → Envelope := sampleMessage "ext.demo.v1"

/-- Participants `a` and `b`, versions `1` and a TTL of 1000 ms. -/
def sampleStart : Envelope :=
  sampleEnvelope "SessionStart" "m0" "a"
    [0x12, 1, 97, 0x12, 1, 98, 0x1A, 1, 49, 0x22, 1, 49, 0x30, 0xE8, 7]

/-- The session the sample start becomes at clock 5. -/
def sampleSession : Session :=
  { sampleSessionOf "ext.demo.v1" none [] with participants := ["a", "b"] }

lemma sampleStart_accepted :
    acceptSessionStart protobuf sampleStart 5 (mode protobuf []) none {} = .ok sampleSession := by
  rfl

end MacpRuntime.Passthrough
