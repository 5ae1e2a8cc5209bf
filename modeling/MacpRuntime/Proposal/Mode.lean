import MacpRuntime.Lib.JsonCodec
import MacpRuntime.Modes.Stateful
import MacpRuntime.Policy.Evaluator

/-!
The proposal mode (`macp-modes/src/mode/proposal.rs`): participants negotiate by proposals and
counter-proposals until one is accepted, as the policy's criterion asks, or rejected for good.  The
phase is computed anew after every message (`refreshPhase`).
-/

namespace MacpRuntime.Proposal

open JsonCodec (string bool byte optionString)

/-! ### The mode state -/

/-- Where a proposal stands. -/
inductive Disposition where
  | Live
  | Withdrawn
  deriving DecidableEq, Repr

/-- How far the negotiation is. -/
inductive Phase where
  | Negotiating
  | Converged
  | TerminalRejected
  | Committed
  deriving DecidableEq, Repr

/-- A proposal, with what it supersedes. -/
structure ProposalRecord where
  proposalId : String
  title : String
  summary : String
  details : Bytes
  tags : List String
  proposer : String
  supersedesProposalId : Option String
  disposition : Disposition
  deriving DecidableEq, Repr

/-- A rejection that ends the negotiation. -/
structure TerminalRejectRecord where
  proposalId : String
  sender : String
  reason : String
  deriving DecidableEq, Repr

/-- A rejection. -/
structure RejectRecord where
  proposalId : String
  sender : String
  reason : String
  terminal : Bool
  deriving DecidableEq, Repr

/-- The whole mode state; a participant accepts at most one proposal. -/
structure State where
  proposals : Std.ExtTreeMap String ProposalRecord
  accepts : Std.ExtTreeMap String String
  terminalRejections : List TerminalRejectRecord
  rejections : List RejectRecord
  phase : Phase

/-- Nothing proposed yet. -/
def State.default : State := ⟨∅, ∅, [], [], .Negotiating⟩

/-! ### The serialized state -/

namespace Codec

/-- The dispositions by name. -/
def disposition : JsonCodec Disposition :=
  .variant [("Live", .Live), ("Withdrawn", .Withdrawn)]

/-- The phases by name. -/
def phase : JsonCodec Phase :=
  .variant
    [("Negotiating", .Negotiating), ("Converged", .Converged),
      ("TerminalRejected", .TerminalRejected), ("Committed", .Committed)]

/-- A proposal. -/
def proposal : JsonCodec ProposalRecord :=
  .record ProposalRecord.mk <|
    .field "proposal_id" string (·.proposalId) <|
    .field "title" string (·.title) <|
    .field "summary" string (·.summary) <|
    .field "details" byte.list (·.details) <|
    .field "tags" string.list (·.tags) <|
    .field "proposer" string (·.proposer) <|
    .fieldOr "supersedes_proposal_id" optionString none (·.supersedesProposalId) <|
    .field "disposition" disposition (·.disposition) .nil

/-- A terminal rejection. -/
def terminalReject : JsonCodec TerminalRejectRecord :=
  .record TerminalRejectRecord.mk <|
    .field "proposal_id" string (·.proposalId) <|
    .field "sender" string (·.sender) <|
    .field "reason" string (·.reason) .nil

/-- A rejection. -/
def reject : JsonCodec RejectRecord :=
  .record RejectRecord.mk <|
    .field "proposal_id" string (·.proposalId) <|
    .field "sender" string (·.sender) <|
    .field "reason" string (·.reason) <|
    .field "terminal" bool (·.terminal) .nil

/-- The whole state; its last two members were added later and may be absent. -/
def state : JsonCodec State :=
  .record State.mk <|
    .field "proposals" proposal.map (·.proposals) <|
    .field "accepts" string.map (·.accepts) <|
    .field "terminal_rejections" terminalReject.list (·.terminalRejections) <|
    .fieldOr "rejections" reject.list [] (·.rejections) <|
    .fieldOr "phase" phase .Negotiating (·.phase) .nil

end Codec

/-! ### Payloads and dependencies -/

/-- The payload of a Proposal. -/
structure ProposalPayload where
  proposalId : String
  title : String
  summary : String
  details : Bytes
  tags : List String

/-- The payload of a CounterProposal. -/
structure CounterProposalPayload where
  proposalId : String
  supersedesProposalId : String
  title : String
  summary : String
  details : Bytes

/-- The payload of a Reject. -/
structure RejectPayload where
  proposalId : String
  terminal : Bool
  reason : String

/-- What the mode is given: the protobuf decoders of its payloads, the readers of its rules and
the policy evaluator.  Of an accept and a withdrawal the mode reads the proposal alone. -/
structure Deps where
  prost : Prost
  decodeProposal : Bytes → Option ProposalPayload
  decodeCounterProposal : Bytes → Option CounterProposalPayload
  decodeAccept : Bytes → Option String
  decodeReject : Bytes → Option RejectPayload
  decodeWithdraw : Bytes → Option String
  reader : RulesReader
  schemas : RuleSchemas
  evaluator : PolicyEvaluator

variable (d : Deps) (session : Session)

/-- The rules of the bound policy; without one, the defaults. -/
def boundRules : ProposalPolicyRules :=
  match session.policyDefinition with
  | none => .default
  | some policy => d.schemas.proposalOrDefault policy.rules

/-! ### The phase -/

/-- `participants_all_accept`: nobody accepts for an empty roster. -/
def participantsAllAccept (participants : List String) (accepts : Std.ExtTreeMap String String)
    (proposalId : String) : Bool :=
  !participants.isEmpty && participants.all fun p => accepts[p]? == some proposalId

/-- Whether the accepts meet the criterion for a proposal; unknown criteria ask all parties. -/
def checkAcceptanceCriterion (criterion : String) (session : Session) (st : State)
    (proposalId proposer : String) : Bool :=
  if criterion == "counterparty" then
    (session.participants.filter (· != proposer)).all fun p => st.accepts[p]? == some proposalId
  else if criterion == "initiator" then
    st.accepts[session.initiatorSender]? == some proposalId
  else participantsAllAccept session.participants st.accepts proposalId

variable (st : State)

/-- The phase of a negotiation that is not committed. -/
def currentPhase : Phase :=
  if !st.terminalRejections.isEmpty then .TerminalRejected
  else if st.proposals.toList.any fun e =>
      e.2.disposition == .Live && checkAcceptanceCriterion (boundRules d session).criterion session
        st e.2.proposalId e.2.proposer then
    .Converged
  else .Negotiating

/-- The phase that the records determine. -/
def refreshPhase : State :=
  { st with phase := currentPhase d session st }

/-- Whether a commitment may come. -/
def commitmentReady : Bool :=
  st.phase == .Converged || st.phase == .TerminalRejected

/-- A proposal that is still live. -/
def liveProposal (proposalId : String) : Option ProposalRecord :=
  st.proposals[proposalId]?.filter (·.disposition == .Live)

/-- Proposals that supersede another one. -/
def counterCount : ℕ :=
  st.proposals.toList.countP (·.2.supersedesProposalId.isSome)

/-! ### The message arms -/

variable (env : Envelope)

/-- Who may send what. -/
def authorizeSender : Except MacpError Unit :=
  if env.messageType == "Commitment" then checkCommitmentAuthority d.reader session env.sender
  else if isDeclaredParticipant session.participants env.sender then .ok ()
  else .error .Forbidden

/-- A session needs participants. -/
def onSessionStart : Except MacpError State :=
  if session.participants.isEmpty then .error .InvalidPayload else .ok .default

variable (st : State)

/-- The state a message leaves is stored with its phase refreshed. -/
def store : Except MacpError (Outcome State) :=
  .ok (.persist (refreshPhase d session st))

/-- A Proposal: its id must be new. -/
def handleProposal : Except MacpError (Outcome State) :=
  match d.decodeProposal env.payload with
  | none => .error .InvalidPayload
  | some payload =>
    if (trim payload.proposalId).isEmpty || st.proposals.contains payload.proposalId then
      .error .InvalidPayload
    else
      store d session { st with
        proposals := st.proposals.insert payload.proposalId
          ⟨payload.proposalId, payload.title, payload.summary, payload.details, payload.tags,
            env.sender, none, .Live⟩ }

/-- A counter-proposal names an earlier one, and the policy may limit their number. -/
def handleCounterProposal : Except MacpError (Outcome State) :=
  match d.decodeCounterProposal env.payload with
  | none => .error .InvalidPayload
  | some payload =>
    if (trim payload.proposalId).isEmpty || (trim payload.supersedesProposalId).isEmpty
        || st.proposals.contains payload.proposalId
        || !st.proposals.contains payload.supersedesProposalId then
      .error .InvalidPayload
    else if 0 < (boundRules d session).maxRounds
        ∧ (boundRules d session).maxRounds ≤ counterCount st then
      .error .InvalidPayload
    else
      store d session { st with
        proposals := st.proposals.insert payload.proposalId
          ⟨payload.proposalId, payload.title, payload.summary, payload.details, [],
            env.sender, some payload.supersedesProposalId, .Live⟩ }

/-- An Accept of a live proposal. -/
def handleAccept : Except MacpError (Outcome State) :=
  match d.decodeAccept env.payload with
  | none => .error .InvalidPayload
  | some proposalId =>
    if (liveProposal st proposalId).isNone then .error .InvalidPayload
    else store d session { st with accepts := st.accepts.insert env.sender proposalId }

/-- Every rejection is recorded; a terminal one also ends the negotiation. -/
def handleReject : Except MacpError (Outcome State) :=
  match d.decodeReject env.payload with
  | none => .error .InvalidPayload
  | some payload =>
    if (liveProposal st payload.proposalId).isNone then .error .InvalidPayload
    else
      let terminal := payload.terminal || (boundRules d session).terminalOnAnyReject
      store d session { st with
        rejections :=
          st.rejections ++ [⟨payload.proposalId, env.sender, payload.reason, terminal⟩]
        terminalRejections :=
          if terminal then
            st.terminalRejections ++ [⟨payload.proposalId, env.sender, payload.reason⟩]
          else st.terminalRejections }

/-- A withdrawn proposal takes its accepts and its terminal rejections with it. -/
def handleWithdraw : Except MacpError (Outcome State) :=
  match d.decodeWithdraw env.payload with
  | none => .error .InvalidPayload
  | some proposalId =>
    if (trim proposalId).isEmpty then .error .InvalidPayload
    else
      match st.proposals[proposalId]? with
      | none => .error .InvalidPayload
      | some record =>
        if record.proposer ≠ env.sender then .error .Forbidden
        else if record.disposition = .Withdrawn then .error .InvalidPayload
        else
          store d session { st with
            proposals :=
              st.proposals.insert proposalId { record with disposition := .Withdrawn }
            accepts := st.accepts.filter fun _ accepted => accepted != proposalId
            terminalRejections :=
              st.terminalRejections.filter (·.proposalId != proposalId) }

/-- A Commitment ends the session. -/
def handleCommitment : Except MacpError (Outcome State) :=
  match validateCommitmentPayloadForSession d.prost session env.payload with
  | .error e => .error e
  | .ok commitment =>
    let st := refreshPhase d session st
    if !commitmentReady st then .error .InvalidPayload
    else
      match enforceCommitmentPolicy d.evaluator session (.Proposal (counterCount st))
          commitment.outcomePositive with
      | .error e => .error e
      | .ok _ => .ok ⟨{ st with phase := .Committed }, some env.payload⟩

/-- One message on the held state. -/
def handle : Except MacpError (Outcome State) :=
  if st.phase = .Committed then .error .SessionNotOpen
  else if env.messageType == "Proposal" then handleProposal d session env st
  else if env.messageType == "CounterProposal" then handleCounterProposal d session env st
  else if env.messageType == "Accept" then handleAccept d session env st
  else if env.messageType == "Reject" then handleReject d session env st
  else if env.messageType == "Withdraw" then handleWithdraw d session env st
  else if env.messageType == "Commitment" then handleCommitment d session env st
  else .error .InvalidPayload

/-- `ProposalMode`, by its parts. -/
def parts : StateMode State where
  encode := Codec.state.encode
  decode := Codec.state.decode
  encode_ne_nil := Codec.state.encode_ne_nil
  absent := some .default
  start := onSessionStart
  authorize := authorizeSender d
  handle := handle d

lemma parts_startsWith : (parts d).StartsWith .default :=
  StateMode.startsWith_of_guard fun _ => rfl

lemma parts_decode_encode : (parts d).decode ((parts d).encode st) = some st := by
  dsimp only [parts]
  exact Codec.state.decode_encode st

end MacpRuntime.Proposal
