import MacpRuntime.Lib.FloatText
import MacpRuntime.Lib.JsonCodec
import MacpRuntime.Modes.Stateful

/-!
The decision mode (`macp-modes/src/mode/decision.rs`): participants propose options, evaluate and
object to them, vote, and a commitment binds the outcome.  The confidence of an evaluation is a
double, and `State.reread` says what is read back of it.
-/

namespace MacpRuntime.Decision

open JsonCodec (string)

/-! ### The serialized state -/

namespace Codec

/-- The phases by name. -/
def phase : JsonCodec Phase :=
  .variant
    [("Proposal", .Proposal), ("Evaluation", .Evaluation),
      ("Voting", .Voting), ("Committed", .Committed)]

/-- A proposal. -/
def proposal : JsonCodec Proposal :=
  .record Proposal.mk <|
    .field "proposal_id" string (·.proposalId) <|
    .field "option" string (·.option) <|
    .field "rationale" string (·.rationale) <|
    .field "sender" string (·.sender) .nil

/-- An objection. -/
def objection : JsonCodec Objection :=
  .record Objection.mk <|
    .field "proposal_id" string (·.proposalId) <|
    .field "reason" string (·.reason) <|
    .field "severity" string (·.severity) <|
    .field "sender" string (·.sender) .nil

/-- A vote. -/
def vote : JsonCodec Vote :=
  .record Vote.mk <|
    .field "proposal_id" string (·.proposalId) <|
    .field "vote" string (·.vote) <|
    .field "reason" string (·.reason) <|
    .field "sender" string (·.sender) .nil

section Floats

variable (texts : FloatText)

/-- An evaluation. -/
def evaluation : JsonForm Evaluation :=
  .record Evaluation.mk <|
    .field "proposal_id" string (·.proposalId) <|
    .field "recommendation" string (·.recommendation) <|
    .form "confidence" ⟨texts.toJson, texts.fromJson, texts.literal_toJson⟩ none (·.confidence) <|
    .field "reason" string (·.reason) <|
    .field "sender" string (·.sender) .nil

/-- The whole state. -/
def state : JsonForm State :=
  .record State.mk <|
    .field "proposals" proposal.map (·.proposals) <|
    .form "evaluations" (evaluation texts).list none (·.evaluations) <|
    .field "objections" objection.list (·.objections) <|
    .field "votes" vote.map.map (·.votes) <|
    .field "phase" phase (·.phase) .nil

end Floats

end Codec

/-- What is read back of an evaluation: its confidence may change, or not be readable at all. -/
def Evaluation.reread (texts : FloatText) (e : Evaluation) : Option Evaluation :=
  (texts.fromJson (texts.toJson e.confidence)).map fun confidence =>
    { e with confidence := confidence }

/-- What is read back of a state. -/
def State.reread (texts : FloatText) (st : State) : Option State :=
  (st.evaluations.mapM (Evaluation.reread texts)).map fun evaluations =>
    { st with evaluations := evaluations }

lemma Codec.reread_evaluation (texts : FloatText) (e : Evaluation) :
    (Codec.evaluation texts).reread e = e.reread texts := by
  refine (JsonForm.reread_record (by exact of_decide_eq_true rfl) _ _ e).trans ?_
  simp [Evaluation.reread, JsonForm.reread, Option.map_eq_bind]

/-- **Only the confidence of evaluations is at stake when a state is read back.** -/
theorem Codec.reread_state (texts : FloatText) (st : State) :
    (Codec.state texts).reread st = st.reread texts := by
  have hevals : (Codec.evaluation texts).reread = Evaluation.reread texts :=
    funext (Codec.reread_evaluation texts)
  refine (JsonForm.reread_record (by exact of_decide_eq_true rfl) _ _ st).trans ?_
  simp [State.reread, JsonForm.reread_list, hevals, Option.map_eq_bind]

/-! ### Payloads and dependencies -/

/-- The payload of a Proposal. -/
structure ProposalPayload where
  proposalId : String
  option : String
  rationale : String

/-- The payload of an Evaluation. -/
structure EvaluationPayload where
  proposalId : String
  recommendation : String
  confidence : Float
  reason : String

/-- The payload of an Objection. -/
structure ObjectionPayload where
  proposalId : String
  reason : String
  severity : String

/-- The payload of a Vote. -/
structure VotePayload where
  proposalId : String
  vote : String
  reason : String

/-- What the mode is given: the protobuf decoders of its payloads, the case folding of texts, the
texts of doubles, the reader of the authority rule and the policy evaluator. -/
structure Deps where
  prost : Prost
  decodeProposal : Bytes → Option ProposalPayload
  decodeEvaluation : Bytes → Option EvaluationPayload
  decodeObjection : Bytes → Option ObjectionPayload
  decodeVote : Bytes → Option VotePayload
  toUppercase : String → String
  toLowercase : String → String
  texts : FloatText
  reader : RulesReader
  evaluator : PolicyEvaluator

variable (d : Deps)

/-- The revision from which the texts of the wire are case-exact and required. -/
def strictWireEnumsRev : ℕ := 4

variable (session : Session)

/-- A text of the wire: exact and required from the strict revision on, before it folded to its
case, with a default for some. -/
def wireEnum (raw : String) (fold : String → String)
    (legacyDefault : Option String) : Except MacpError String :=
  if strictWireEnumsRev ≤ session.semanticsRev then
    if raw.isEmpty then .error .InvalidPayload else .ok raw
  else
    match raw.isEmpty, legacyDefault with
    | true, some default => .ok default
    | _, _ => .ok (fold raw)

/-- A text of the wire that is one of the known ones. -/
def knownEnum (raw : String) (fold : String → String)
    (legacyDefault : Option String) (known : List String) : Except MacpError String :=
  match wireEnum session raw fold legacyDefault with
  | .error e => .error e
  | .ok text => if known.contains text then .ok text else .error .InvalidPayload

/-! ### The phases -/

variable (st : State)

/-- No message once committed. -/
def ensureNotCommitted : Except MacpError Unit :=
  if st.phase = .Committed then .error .SessionNotOpen else .ok ()

/-- The proposal must exist. -/
def ensureKnownProposal (proposalId : String) : Except MacpError Unit :=
  if !st.proposals.contains proposalId then .error .InvalidPayload else .ok ()

/-- The phases in which one may propose. -/
def ensureCanPropose : Except MacpError Unit :=
  match ensureNotCommitted st with
  | .error e => .error e
  | .ok _ => if st.phase = .Voting then .error .InvalidPayload else .ok ()

/-- The phases in which one may evaluate and object. -/
def ensureCanDeliberate : Except MacpError Unit :=
  match ensureNotCommitted st with
  | .error e => .error e
  | .ok _ => if st.phase ≠ .Evaluation then .error .InvalidPayload else .ok ()

/-- The phases in which one may vote. -/
def ensureCanVote : Except MacpError Unit :=
  match ensureNotCommitted st with
  | .error e => .error e
  | .ok _ =>
    if st.phase = .Proposal ∨ st.phase = .Committed then .error .InvalidPayload else .ok ()

/-- A commitment needs a proposal. -/
def commitmentReady : Bool := !st.proposals.isEmpty

/-! ### The message arms -/

variable (env : Envelope)

/-- Who may send what. -/
def authorizeSender : Except MacpError Unit :=
  if env.messageType == "Commitment" then checkCommitmentAuthority d.reader session env.sender
  else if ["Proposal", "Evaluation", "Objection", "Vote"].contains env.messageType
      && isDeclaredParticipant session.participants env.sender then .ok ()
  else .error .Forbidden

variable (st : State)

/-- A Proposal: its id must be new. -/
def handleProposal : Except MacpError (Outcome State) :=
  match ensureCanPropose st with
  | .error e => .error e
  | .ok _ =>
    match d.decodeProposal env.payload with
    | none => .error .InvalidPayload
    | some payload =>
      if (trim payload.proposalId).isEmpty || (trim payload.option).isEmpty
          || st.proposals.contains payload.proposalId then
        .error .InvalidPayload
      else
        .ok (.persist { st with
          proposals := st.proposals.insert payload.proposalId
            ⟨payload.proposalId, payload.option, payload.rationale, env.sender⟩
          phase := .Evaluation })

/-- The confidence range is checked by two comparisons, which are both false for what is not a
number. -/
def handleEvaluation : Except MacpError (Outcome State) :=
  match d.decodeEvaluation env.payload with
  | none => .error .InvalidPayload
  | some payload =>
    match knownEnum session payload.recommendation d.toUppercase none
        ["APPROVE", "REVIEW", "BLOCK", "REJECT"] with
    | .error e => .error e
    | .ok recommendation =>
      if payload.confidence < 0.0 ∨ payload.confidence > 1.0 then .error .InvalidPayload
      else
        match ensureCanDeliberate st with
        | .error e => .error e
        | .ok _ =>
          match ensureKnownProposal st payload.proposalId with
          | .error e => .error e
          | .ok _ =>
            .ok (.persist { st with
              evaluations := st.evaluations ++ [⟨payload.proposalId, recommendation,
                payload.confidence, payload.reason, env.sender⟩] })

/-- An Objection; its severity has a default. -/
def handleObjection : Except MacpError (Outcome State) :=
  match d.decodeObjection env.payload with
  | none => .error .InvalidPayload
  | some payload =>
    match knownEnum session payload.severity d.toLowercase (some "medium")
        ["critical", "high", "medium", "low"] with
    | .error e => .error e
    | .ok severity =>
      match ensureCanDeliberate st with
      | .error e => .error e
      | .ok _ =>
        match ensureKnownProposal st payload.proposalId with
        | .error e => .error e
        | .ok _ =>
          .ok (.persist { st with
            objections := st.objections ++
              [⟨payload.proposalId, payload.reason, severity, env.sender⟩] })

/-- A Vote: one for each sender and proposal. -/
def handleVote : Except MacpError (Outcome State) :=
  match d.decodeVote env.payload with
  | none => .error .InvalidPayload
  | some payload =>
    match knownEnum session payload.vote d.toUppercase none ["APPROVE", "REJECT", "ABSTAIN"] with
    | .error e => .error e
    | .ok vote =>
      match ensureCanVote st with
      | .error e => .error e
      | .ok _ =>
        match ensureKnownProposal st payload.proposalId with
        | .error e => .error e
        | .ok _ =>
          let proposalVotes := (st.votes[payload.proposalId]?).getD ∅
          if proposalVotes.contains env.sender then .error .InvalidPayload
          else
            .ok (.persist { st with
              votes := st.votes.insert payload.proposalId (proposalVotes.insert env.sender
                ⟨payload.proposalId, vote, payload.reason, env.sender⟩)
              phase := .Voting })

/-- A Commitment ends the session. -/
def handleCommitment : Except MacpError (Outcome State) :=
  match validateCommitmentPayloadForSession d.prost session env.payload with
  | .error e => .error e
  | .ok commitment =>
    if !commitmentReady st then .error .InvalidPayload
    else
      match enforceCommitmentPolicy d.evaluator session (.Decision st)
          commitment.outcomePositive with
      | .error e => .error e
      | .ok _ => .ok ⟨{ st with phase := .Committed }, some env.payload⟩

/-- One message on the held state. -/
def handle : Except MacpError (Outcome State) :=
  match ensureNotCommitted st with
  | .error e => .error e
  | .ok _ =>
    if env.messageType == "Proposal" then handleProposal d env st
    else if env.messageType == "Evaluation" then handleEvaluation d session env st
    else if env.messageType == "Objection" then handleObjection d session env st
    else if env.messageType == "Vote" then handleVote d session env st
    else if env.messageType == "Commitment" then handleCommitment d session env st
    else .error .InvalidPayload

/-- `DecisionMode`, by its parts.  A session may start without participants. -/
def parts : StateMode State where
  encode := (Codec.state d.texts).encode
  decode := (Codec.state d.texts).decode
  encode_ne_nil := (Codec.state d.texts).encode_ne_nil
  absent := some .default
  start := fun _ => .ok .default
  authorize := authorizeSender d
  handle := handle d

lemma parts_startsWith : (parts d).StartsWith .default :=
  fun _ _ hstart => (Except.ok.inj hstart).symm

lemma parts_decode_encode : (parts d).decode ((parts d).encode st) = st.reread d.texts := by
  dsimp only [parts]
  rw [JsonForm.decode_encode, Codec.reread_state]

end MacpRuntime.Decision
