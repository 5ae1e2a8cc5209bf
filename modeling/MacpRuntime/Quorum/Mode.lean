import MacpRuntime.Lib.JsonCodec
import MacpRuntime.Modes.Stateful
import MacpRuntime.Policy.Evaluator

/-!
The quorum mode (`macp-modes/src/mode/quorum.rs`): the initiator requests approval of one action,
every participant casts at most one ballot, and a commitment seals the outcome once the threshold,
of the bound policy or else of the request, is met or can no longer be met.
-/

namespace MacpRuntime.Quorum

open JsonCodec (string uint32 byte)

/-! ### The mode state -/

/-- What a ballot says. -/
inductive BallotChoice where
  | Approve
  | Reject
  | Abstain
  deriving DecidableEq, Repr

/-- The request that is voted on. -/
structure ApprovalRequestRecord where
  requestId : String
  action : String
  summary : String
  details : Bytes
  requiredApprovals : UInt32
  requestedBy : String
  deriving DecidableEq, Repr

/-- A ballot. -/
structure BallotRecord where
  requestId : String
  choice : BallotChoice
  sender : String
  reason : String
  deriving DecidableEq, Repr

/-- The whole mode state; ballots are held by sender. -/
structure State where
  request : Option ApprovalRequestRecord
  ballots : Std.ExtTreeMap String BallotRecord

/-- No request yet. -/
def State.default : State := ⟨none, ∅⟩

/-- `ballots.values().filter(..).count()`. -/
def State.count (st : State) (choice : BallotChoice) : ℕ :=
  st.ballots.toList.countP (·.2.choice == choice)

/-! ### The serialized state -/

namespace Codec

/-- The choices by name. -/
def choice : JsonCodec BallotChoice :=
  .variant [("Approve", .Approve), ("Reject", .Reject), ("Abstain", .Abstain)]

/-- A request. -/
def request : JsonCodec ApprovalRequestRecord :=
  .record ApprovalRequestRecord.mk <|
    .field "request_id" string (·.requestId) <|
    .field "action" string (·.action) <|
    .field "summary" string (·.summary) <|
    .field "details" byte.list (·.details) <|
    .field "required_approvals" uint32 (·.requiredApprovals) <|
    .field "requested_by" string (·.requestedBy) .nil

/-- A request or `null`. -/
def optionalRequest : JsonCodec (Option ApprovalRequestRecord) :=
  request.option fun _ h => Json.noConfusion h

/-- A ballot. -/
def ballot : JsonCodec BallotRecord :=
  .record BallotRecord.mk <|
    .field "request_id" string (·.requestId) <|
    .field "choice" choice (·.choice) <|
    .field "sender" string (·.sender) <|
    .field "reason" string (·.reason) .nil

/-- The whole state. -/
def state : JsonCodec State :=
  .record State.mk <|
    .fieldOr "request" optionalRequest none (·.request) <|
    .field "ballots" ballot.map (·.ballots) .nil

end Codec

/-! ### Payloads and dependencies -/

/-- The payload of an ApprovalRequest. -/
structure ApprovalRequestPayload where
  requestId : String
  action : String
  summary : String
  details : Bytes
  requiredApprovals : UInt32

/-- The payload of a ballot, whichever its choice. -/
structure BallotPayload where
  requestId : String
  reason : String

/-- What the mode is given: the protobuf decoders of its payloads, the readers of its rules and
the policy evaluator. -/
structure Deps where
  prost : Prost
  decodeApprovalRequest : Bytes → Option ApprovalRequestPayload
  decodeApprove : Bytes → Option BallotPayload
  decodeReject : Bytes → Option BallotPayload
  decodeAbstain : Bytes → Option BallotPayload
  reader : RulesReader
  schemas : RuleSchemas
  evaluator : PolicyEvaluator

/-! ### The threshold -/

/-- The approvals a session needs for a positive commitment. -/
inductive ApprovalThreshold where
  | Approvals (required : UInt32)
  | Unsatisfiable
  deriving DecidableEq, Repr

variable (d : Deps) (session : Session)

/-- The bar the bound policy sets; without one, none. -/
def policyThreshold : EffectiveThreshold :=
  match session.policyDefinition with
  | none => .Inert
  | some policy =>
    (d.schemas.quorumOrDefault policy.rules).threshold.effective session.participants.length

/-- The policy's bar, or the request's own number where the policy sets none. -/
def effectiveThreshold (request : ApprovalRequestRecord) : ApprovalThreshold :=
  match policyThreshold d session with
  | .Inert => .Approvals request.requiredApprovals
  | .Approvals required => .Approvals required
  | .Unsatisfiable => .Unsatisfiable

/-- The threshold as a session reports it; without a request there is none. -/
def effectiveThresholdForSession : Except MacpError (Option ApprovalThreshold) :=
  if session.modeState.isEmpty then .ok none
  else
    match Codec.state.decode session.modeState with
    | none => .error .InvalidModeState
    | some st => .ok (st.request.map (effectiveThreshold d session))

/-- Participants who can still cast a ballot, as the mode counts them. -/
def remaining (st : State) : UInt32 :=
  let eligible := UInt32.ofNat session.participants.length
  let counted := UInt32.ofNat st.ballots.size
  if counted ≤ eligible then eligible - counted else 0

/-- The approvals are there, or can no longer be reached. -/
def commitmentReady (st : State) : Bool :=
  match st.request with
  | none => false
  | some request =>
    match effectiveThreshold d session request with
    | .Unsatisfiable => false
    | .Approvals required =>
      let approvals := UInt32.ofNat (st.count .Approve)
      decide (required ≤ approvals) || decide (approvals + remaining session st < required)

/-! ### The message arms -/

variable (env : Envelope)

/-- Who may send what. -/
def authorizeSender : Except MacpError Unit :=
  if env.messageType == "ApprovalRequest" then
    if env.sender == session.initiatorSender then .ok () else .error .Forbidden
  else if env.messageType == "Commitment" then
    checkCommitmentAuthority d.reader session env.sender
  else if isDeclaredParticipant session.participants env.sender then .ok ()
  else .error .Forbidden

/-- A session needs participants. -/
def onSessionStart : Except MacpError State :=
  if session.participants.isEmpty then .error .InvalidPayload else .ok .default

/-- The record of a request. -/
def newRequest (payload : ApprovalRequestPayload) : ApprovalRequestRecord where
  requestId := payload.requestId
  action := payload.action
  summary := payload.summary
  details := payload.details
  requiredApprovals := payload.requiredApprovals
  requestedBy := env.sender

variable (st : State)

/-- The request is refused if no commitment could ever follow it. -/
def handleApprovalRequest : Except MacpError (Outcome State) :=
  if env.sender ≠ session.initiatorSender then .error .Forbidden
  else
    match d.decodeApprovalRequest env.payload with
    | none => .error .InvalidPayload
    | some payload =>
      if st.request.isSome || payload.requestId.isEmpty || payload.requiredApprovals == 0
          || decide (UInt32.ofNat session.participants.length < payload.requiredApprovals) then
        .error .InvalidPayload
      else
        match effectiveThreshold d session (newRequest env payload) with
        | .Unsatisfiable => .error .InvalidPayload
        | .Approvals _ => .ok (.persist { st with request := some (newRequest env payload) })

/-- A ballot of the given choice: on the request, and the sender's only one. -/
def handleBallot (decode : Bytes → Option BallotPayload) (choice : BallotChoice) (env : Envelope)
    (st : State) : Except MacpError (Outcome State) :=
  match decode env.payload with
  | none => .error .InvalidPayload
  | some payload =>
    match st.request with
    | none => .error .InvalidPayload
    | some request =>
      if payload.requestId ≠ request.requestId ∨ st.ballots.contains env.sender then
        .error .InvalidPayload
      else
        .ok (.persist { st with
          ballots := st.ballots.insert env.sender
            ⟨payload.requestId, choice, env.sender, payload.reason⟩ })

/-- A Commitment ends the session. -/
def handleCommitment : Except MacpError (Outcome State) :=
  match validateCommitmentPayloadForSession d.prost session env.payload with
  | .error e => .error e
  | .ok commitment =>
    if !commitmentReady d session st then .error .InvalidPayload
    else
      match enforceCommitmentPolicy d.evaluator session
          (.Quorum (st.count .Approve) (st.count .Reject) (st.count .Abstain))
          commitment.outcomePositive with
      | .error e => .error e
      | .ok _ => .ok ⟨st, some env.payload⟩

/-- One message on the held state. -/
def handle : Except MacpError (Outcome State) :=
  if env.messageType == "ApprovalRequest" then handleApprovalRequest d session env st
  else if env.messageType == "Approve" then handleBallot d.decodeApprove .Approve env st
  else if env.messageType == "Reject" then handleBallot d.decodeReject .Reject env st
  else if env.messageType == "Abstain" then handleBallot d.decodeAbstain .Abstain env st
  else if env.messageType == "Commitment" then handleCommitment d session env st
  else .error .InvalidPayload

/-- `QuorumMode`, by its parts. -/
def parts : StateMode State where
  encode := Codec.state.encode
  decode := Codec.state.decode
  encode_ne_nil := Codec.state.encode_ne_nil
  absent := some .default
  start := onSessionStart
  authorize := authorizeSender d
  handle := handle d

lemma parts_startsWith : (parts d).StartsWith .default :=
  StateMode.startsWith_of_guard fun _ => rfl

lemma parts_decode_encode : (parts d).decode ((parts d).encode st) = some st := by
  dsimp only [parts]
  exact Codec.state.decode_encode st

end MacpRuntime.Quorum
