import MacpRuntime.Core.Decision
import MacpRuntime.Core.SessionStart

/-!
What the modes share (`macp-modes/src/mode/util.rs`): the validation of a commitment payload against
its session, the commitment authority rule and the policy gate.  The typed readings of a policy's
rules and the policy evaluator are parameters.
-/

namespace MacpRuntime

/-! ### Policy rules -/

/-- The `commitment` section of a rule set. -/
structure CommitmentRules where
  authority : String
  designatedRoles : List String
  requireVoteQuorum : Bool
  allowDeclineOverApproval : Bool
  deriving DecidableEq, Repr

/-- The defaults. -/
def CommitmentRules.default : CommitmentRules where
  authority := "initiator_only"
  designatedRoles := []
  requireVoteQuorum := false
  allowDeclineOverApproval := false

/-- The handoff rule set: the implicit-accept timeout and the commitment section. -/
structure HandoffPolicyRules where
  implicitAcceptTimeoutMs : UInt64
  commitment : CommitmentRules
  deriving DecidableEq, Repr

/-- The defaults. -/
def HandoffPolicyRules.default : HandoffPolicyRules where
  implicitAcceptTimeoutMs := 0
  commitment := .default

/-- The derived readers of typed rule sets. -/
structure RulesReader where
  commitmentRules : Json → Option CommitmentRules
  handoffPolicyRules : Json → Option HandoffPolicyRules

/-- The `commitment` section of any rule set, or its defaults. -/
def extractCommitmentRules (reader : RulesReader) (rules : Json) : CommitmentRules :=
  ((rules.get? "commitment").bind reader.commitmentRules).getD .default

/-- What a mode tells the evaluator about its own state; handoff adds nothing. -/
inductive CommitmentMode where
  | Decision (state : Decision.State)
  | Proposal (counterProposalCount : ℕ)
  | Task (hasOutput : Bool)
  | Handoff
  | Quorum (approveCount rejectCount abstainCount : ℕ)

/-- Everything an evaluator may consult. -/
structure CommitmentContext where
  policy : PolicyDefinition
  participants : List String
  outcomePositive : Bool
  mode : CommitmentMode

/-- What a policy says. -/
inductive PolicyDecision where
  | Allow (reasons : List String)
  | Deny (reasons : List DenyReason)

/-- The `PolicyEvaluator` trait. -/
abbrev PolicyEvaluator := CommitmentContext → PolicyDecision

/-! ### Commitments -/

/-- `str::ends_with`. -/
def endsWith (s p : String) : Bool := p.toList.isSuffixOf s.toList

/-- The canonical commitment hash: `sha256:` and 64 lower-case hexadecimal digits. -/
def isCanonicalCommitmentHash (s : String) : Bool :=
  let head := "sha256:".toList
  let rest := s.toList.drop head.length
  head.isPrefixOf s.toList && rest.length == 64
    && rest.all fun c => ('0' ≤ c && c ≤ '9') || ('a' ≤ c && c ≤ 'f')

/-- The outcome flag must agree with the action's ending. -/
def validateOutcomePositive (commitment : CommitmentPayload) : Except MacpError Unit :=
  let isNegative := ["rejected", "failed", "declined"].any (endsWith commitment.action)
  let isPositive :=
    ["selected", "accepted", "completed", "approved"].any (endsWith commitment.action)
  if isNegative && commitment.outcomePositive then .error .InvalidPayload
  else if isPositive && !commitment.outcomePositive then .error .InvalidPayload
  else .ok ()

/-- A superseded commitment must be named, by session and canonical hash. -/
def supersedesMalformed (commitment : CommitmentPayload) : Bool :=
  match commitment.supersedes with
  | some sup =>
    (trim sup.sessionId).isEmpty || !isCanonicalCommitmentHash sup.commitmentHash
  | none => false

/-- Decode a commitment and check it against the session's bindings. -/
def validateCommitmentPayloadForSession (prost : Prost) (session : Session) (payload : Bytes) :
    Except MacpError CommitmentPayload :=
  match prost.decodeCommitment payload with
  | none => .error .InvalidPayload
  | some commitment =>
    if (trim commitment.commitmentId).isEmpty || (trim commitment.action).isEmpty
        || (trim commitment.authorityScope).isEmpty || (trim commitment.reason).isEmpty then
      .error .InvalidPayload
    else if commitment.modeVersion != session.modeVersion
        || commitment.configurationVersion != session.configurationVersion then
      .error .InvalidPayload
    else if !commitment.policyVersion.isEmpty && !session.policyVersion.isEmpty
        && commitment.policyVersion != session.policyVersion then
      .error .InvalidPayload
    else if supersedesMalformed commitment then .error .InvalidPayload
    else
      match validateOutcomePositive commitment with
      | .error e => .error e
      | .ok _ => .ok commitment

/-- A validated commitment is the one the payload decodes to. -/
lemma decodeCommitment_of_validate {prost : Prost} {session : Session} {payload : Bytes}
    {commitment : CommitmentPayload}
    (h : validateCommitmentPayloadForSession prost session payload = .ok commitment) :
    prost.decodeCommitment payload = some commitment := by
  unfold validateCommitmentPayloadForSession at h
  split at h
  · cases h
  · rename_i decoded hdecode
    split_ifs at h
    split at h
    · cases h
    · cases h
      exact hdecode

/-- The shared policy gate: only an explicit allowance proceeds. -/
def enforceCommitmentPolicy (evaluator : PolicyEvaluator) (session : Session)
    (mode : CommitmentMode) (outcomePositive : Bool) : Except MacpError Unit :=
  match session.policyDefinition with
  | none => .ok ()
  | some policy =>
    match evaluator ⟨policy, session.participants, outcomePositive, mode⟩ with
    | .Allow _ => .ok ()
    | .Deny reasons => .error (.PolicyDenied reasons)

/-- Whether a sender was declared. -/
def isDeclaredParticipant (participants : List String) (sender : String) : Bool :=
  participants.any (· == sender)

/-- Who may emit a commitment, by the policy's authority rule; the initiator alone by
default. -/
def checkCommitmentAuthority (reader : RulesReader) (session : Session) (sender : String) :
    Except MacpError Unit :=
  let allowed :=
    match session.policyDefinition with
    | none => sender == session.initiatorSender
    | some policy =>
      let rules := extractCommitmentRules reader policy.rules
      if rules.authority == "any_participant" then
        sender == session.initiatorSender || isDeclaredParticipant session.participants sender
      else if rules.authority == "designated_role" then
        rules.designatedRoles.any (· == sender)
      else sender == session.initiatorSender
  if allowed then .ok () else .error .Forbidden

end MacpRuntime
