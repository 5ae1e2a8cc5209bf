import MacpRuntime.Policy.Rules

/-!
The default policy evaluator (`macp-policy/src/evaluator.rs`, `lib.rs`).

Every check gives its `Findings`: reasons to deny, and reasons to report when nothing denies. They
are put together in the order of the checks, and one reason to deny is enough (`Findings.conclude`).
The rendering of floats and the upper-casing of a text are the standard library's; `Rendering`
collects them.
-/

namespace MacpRuntime

open Std

/-- Standard library functions on texts: `{}` and `{:.n}` of a float, and `to_uppercase`. -/
structure Rendering where
  float : Float → String
  floatFixed : ℕ → Float → String
  toUppercase : String → String

/-- Renders no numbers and leaves texts as they are. -/
def Rendering.plain : Rendering := ⟨fun _ => "", fun _ _ => "", id⟩

/-- A reason that names nobody. -/
def DenyReason.new (code message : String) : DenyReason := ⟨code, message, []⟩

/-! ### Findings -/

/-- What the checks of an evaluation found. -/
structure Findings where
  deny : List DenyReason
  allow : List String

namespace Findings

/-- No finding. -/
def nothing : Findings := ⟨[], []⟩

/-- A reason to deny. -/
def denied (reason : DenyReason) : Findings := ⟨[reason], []⟩

/-- A reason to allow. -/
def allowed (reason : String) : Findings := ⟨[], [reason]⟩

instance : Append Findings := ⟨fun f g => ⟨f.deny ++ g.deny, f.allow ++ g.allow⟩⟩

/-- The decision: an allowance without reasons gives the fallback as its reason. -/
def conclude (f : Findings) (fallback : String) : PolicyDecision :=
  if f.deny.isEmpty then .Allow (if f.allow.isEmpty then [fallback] else f.allow)
  else .Deny f.deny

@[simp] lemma deny_nothing : nothing.deny = [] := rfl

@[simp] lemma deny_denied (reason : DenyReason) : (denied reason).deny = [reason] := rfl

@[simp] lemma deny_allowed (reason : String) : (allowed reason).deny = [] := rfl

@[simp] lemma deny_append (f g : Findings) : (f ++ g).deny = f.deny ++ g.deny := rfl

end Findings

/-- The commitment may proceed. -/
def PolicyDecision.Allows : PolicyDecision → Prop
  | .Allow _ => True
  | .Deny _ => False

instance (d : PolicyDecision) : Decidable d.Allows :=
  match d with
  | .Allow _ => .isTrue trivial
  | .Deny _ => .isFalse id

@[simp] lemma PolicyDecision.not_allows_deny (reasons : List DenyReason) :
    ¬ (PolicyDecision.Deny reasons).Allows := id

@[simp] lemma Findings.conclude_allows (f : Findings) (fallback : String) :
    (f.conclude fallback).Allows ↔ f.deny = [] := by
  unfold conclude
  cases hf : f.deny <;> simp [PolicyDecision.Allows]

/-- The policy gate lets through what the bound policy, if there is one, allows. -/
lemma enforceCommitmentPolicy_eq_ok {evaluator : PolicyEvaluator} {session : Session}
    {mode : CommitmentMode} {outcomePositive : Bool} :
    enforceCommitmentPolicy evaluator session mode outcomePositive = .ok () ↔
      ∀ policy, session.policyDefinition = some policy →
        (evaluator ⟨policy, session.participants, outcomePositive, mode⟩).Allows := by
  unfold enforceCommitmentPolicy
  cases session.policyDefinition with
  | none => simp
  | some policy =>
    simp only [Option.some.injEq, forall_eq']
    cases evaluator ⟨policy, session.participants, outcomePositive, mode⟩ <;>
      simp [PolicyDecision.Allows]

/-! ### Descriptors -/

/-- Unknown schema versions are denied. -/
def checkSchemaVersion (policy : PolicyDefinition) : Option PolicyDecision :=
  if policy.schemaVersion ∈ supportedSchemaVersions then none
  else
    some (.Deny [.new "unsupported_schema_version"
      s!"unsupported policy schema version: {policy.schemaVersion} (supported: [1, 2, 3])"])

/-- The typed rules of a policy, or the denial for rules that do not parse. -/
def parseRules {ρ : Type} (read : Json → Except String ρ) (policy : PolicyDefinition) :
    Except PolicyDecision ρ :=
  match read policy.rules with
  | .ok rules => .ok rules
  | .error e =>
    .error (.Deny [.new "invalid_rules"
      s!"policy '{policy.policyId}' rules failed to parse at evaluation time: {e}"])

/-- Both gates of every evaluation: a supported version, and rules that parse. -/
def withRules {ρ : Type} (read : Json → Except String ρ) (policy : PolicyDefinition)
    (evaluate : ρ → PolicyDecision) : PolicyDecision :=
  match checkSchemaVersion policy with
  | some deny => deny
  | none =>
    match parseRules read policy with
    | .error deny => deny
    | .ok rules => evaluate rules

/-- Nothing is allowed without rules to allow it. -/
lemma withRules_allows {ρ : Type} {read : Json → Except String ρ} {policy : PolicyDefinition}
    {evaluate : ρ → PolicyDecision} :
    (withRules read policy evaluate).Allows ↔
      policy.schemaVersion ∈ supportedSchemaVersions ∧
        ∃ rules, read policy.rules = .ok rules ∧ (evaluate rules).Allows := by
  unfold withRules checkSchemaVersion parseRules
  by_cases hv : policy.schemaVersion ∈ supportedSchemaVersions
  · cases hr : read policy.rules <;> simp [hv]
  · simp [hv]

/-! ### Votes -/

namespace Decision

section Votes

variable (votes : ExtTreeMap String (ExtTreeMap String Vote))

/-- Every ballot with its voter, proposal by proposal. -/
def ballots : List (String × Vote) := votes.toList.flatMap (·.2.toList)

/-- The counts over all proposals; anything but an approval or a rejection abstains. -/
structure Tally where
  approve : ℕ
  reject : ℕ
  abstain : ℕ
  nonAbstainTotal : ℕ

/-- The counts of the votes. -/
def aggregateVotes : Tally :=
  let approve := (ballots votes).countP (·.2.vote == "APPROVE")
  let reject := (ballots votes).countP (·.2.vote == "REJECT")
  ⟨approve, reject,
    (ballots votes).countP (fun b => b.2.vote != "APPROVE" && b.2.vote != "REJECT"),
    approve + reject⟩

variable (weights : ExtTreeMap String Float)

/-- The weight of a voter; the map is the electorate, and an absent voter weighs nothing. -/
def weightOf (voter : String) : Float :=
  weights[voter]?.getD 0

/-- The weight of the approvals and of all decisive ballots. -/
def computeWeightedVotes : Float × Float :=
  (ballots votes).foldl
    (fun sums b =>
      if b.2.vote != "APPROVE" && b.2.vote != "REJECT" then sums
      else
        let weight := weightOf weights b.1
        (if b.2.vote == "APPROVE" then sums.1 + weight else sums.1, sums.2 + weight))
    (0, 0)

/-- Rejections that count: under `weighted`, only those of voters with a positive weight. -/
def countDecisiveRejects (algorithm : String) (weights : ExtTreeMap String Float) : ℕ :=
  if algorithm != "weighted" then (aggregateVotes votes).reject
  else (ballots votes).countP fun b => b.2.vote == "REJECT" && decide (0 < weightOf weights b.1)

/-- How many have voted. -/
def countUniqueVoters : ℕ := ((ballots votes).map (·.1)).dedup.length

end Votes

/-- The participation floor; an unknown type counts as `count`. -/
def checkQuorum (quorumType : String) (value : Float) (actualVoters totalParticipants : ℕ) : Bool :=
  if quorumType == "percentage" then
    if totalParticipants = 0 then decide (value ≤ 0)
    else decide (value ≤ Float.ofNat actualVoters / Float.ofNat totalParticipants * 100)
  else decide (value ≤ Float.ofNat actualVoters)

/-- How a vote ended. -/
inductive VotingResult where
  | Passed (reason : String)
  | Failed (reason : String)
  | NoVotes

/-- A ratio against its threshold, in the words of the algorithm. -/
def compareRatio (render : Rendering) (name subject : String) (ratio threshold : Float) :
    VotingResult :=
  let shown := render.floatFixed 1 (ratio * 100)
  let bar := render.floatFixed 1 (threshold * 100)
  if threshold ≤ ratio then
    .Passed s!"{name} vote passed: {shown}% {subject} (threshold: {bar}%)"
  else .Failed s!"{name} vote failed: {shown}% {subject}, need >= {bar}%"

/-- The voting algorithm on the collected votes; an unknown one does not pass. -/
def checkVotingAlgorithm (render : Rendering) (voting : VotingRules)
    (votes : ExtTreeMap String (ExtTreeMap String Vote)) (participants : List String) :
    VotingResult :=
  let tally := aggregateVotes votes
  let ratio := Float.ofNat tally.approve / Float.ofNat tally.nonAbstainTotal
  if tally.nonAbstainTotal = 0 then .NoVotes
  else if voting.algorithm == "majority" then
    compareRatio render "majority" "approve" ratio voting.threshold
  else if voting.algorithm == "supermajority" then
    compareRatio render "supermajority" "approve" ratio
      (if 0.5 < voting.threshold then voting.threshold else 2 / 3)
  else if voting.algorithm == "unanimous" then
    let approvedBy (p : String) : Bool :=
      votes.toList.any fun entry => (entry.2[p]?.map (·.vote == "APPROVE")).getD false
    if participants.all approvedBy && tally.reject == 0 then
      .Passed "unanimous vote passed: all participants approved"
    else
      let total := participants.length
      .Failed (s!"unanimous vote failed: {tally.approve} approve, {tally.reject} reject out of " ++
        s!"{total} participants")
  else if voting.algorithm == "weighted" then
    let (approve, total) := computeWeightedVotes votes voting.weights
    -- no ratio over a negative total means anything
    if total < 0 then
      let shown := render.floatFixed 1 total
      .Failed (s!"weighted vote failed: the weights of the votes cast sum to {shown}; " ++
        "voting.weights values must be > 0, so no approval ratio is meaningful")
    else if total == 0 then .NoVotes
    else compareRatio render "weighted" "weighted approve" (approve / total) voting.threshold
  else if voting.algorithm == "plurality" then
    if tally.reject < tally.approve then
      .Passed s!"plurality vote passed: {tally.approve} approve vs {tally.reject} reject"
    else if tally.approve = tally.reject then
      .Failed s!"plurality vote tied: {tally.approve} approve vs {tally.reject} reject"
    else .Failed s!"plurality vote failed: {tally.approve} approve vs {tally.reject} reject"
  else
    .Failed (s!"unknown voting algorithm '{voting.algorithm}'; supported: majority, " ++
      "supermajority, unanimous, weighted, plurality, none")

end Decision

/-! ### Decision commitments -/

namespace Decision

/-- Values no registered policy carries (`macp-policy/src/registry.rs`). -/
def decisionValueDomainError (render : Rendering) (rules : DecisionPolicyRules) : Option String :=
  let vetoThreshold := rules.objectionHandling.vetoThreshold
  let confidence := rules.evaluation.minimumConfidence
  if vetoThreshold < 1 then
    some s!"objection_handling.veto_threshold {vetoThreshold} is out of range: must be >= 1"
  else if ¬ (0 ≤ confidence ∧ confidence ≤ 1) then
    let shown := render.float confidence
    some (s!"evaluation.minimum_confidence {shown} is out of range: must be between 0.0 and 1.0 " ++
      "inclusive")
  else none

section Checks

variable (render : Rendering) (rules : DecisionPolicyRules) (state : State)

/-- The senders of critical objections. -/
def blockingObjectors : List String :=
  (state.objections.filter (·.severity == "critical")).map (·.sender)

/-- A standing veto: its description and the objectors. -/
def criticalVeto : Option (String × List String) :=
  let blocking := blockingObjectors state
  let vetoThreshold := rules.objectionHandling.vetoThreshold
  if rules.objectionHandling.criticalSeverityVetoes
      && decide (vetoThreshold ≤ blocking.length) then
    some (s!"{blocking.length} blocking objection(s) (veto threshold: {vetoThreshold})", blocking)
  else none

/-- The decline is authorized by the recorded objections and not by the votes. -/
def objectionAuthorizedDecline (outcomePositive : Bool) : Bool :=
  (criticalVeto rules state).isSome && !outcomePositive
    && rules.objectionHandling.criticalObjectionAction == .FinalizeDecline

/-- Evaluations that only ask for a review qualify for nothing. -/
def qualifyingEvaluations : List Evaluation :=
  state.evaluations.filter (render.toUppercase ·.recommendation != "REVIEW")

/-- The required evaluations. -/
def checkEvaluations : Findings :=
  let qualifying := qualifyingEvaluations render state
  let minimum := rules.evaluation.minimumConfidence
  if rules.evaluation.requiredBeforeVoting && decide (0 < minimum) then
    if qualifying.isEmpty || !qualifying.any (fun e => decide (minimum ≤ e.confidence)) then
      let shown := render.floatFixed 2 minimum
      .denied (.new "confidence_below_minimum"
        s!"no qualifying evaluation meets minimum confidence threshold: {shown}")
    else .nothing
  else if rules.evaluation.requiredBeforeVoting && qualifying.isEmpty then
    .denied (.new "evaluation_required"
      ("evaluations required before voting but none provided (REVIEW evaluations are " ++
        "informational only)"))
  else .nothing

/-- A standing veto, resolved by the action the policy names. -/
def checkVeto (outcomePositive : Bool) : Findings :=
  match criticalVeto rules state with
  | none => .nothing
  | some (detail, objectors) =>
    match rules.objectionHandling.criticalObjectionAction with
    | .Deny => .denied ⟨"veto", s!"blocked by {detail}", objectors⟩
    | .Hold =>
      .denied ⟨"veto_hold",
        s!"held for escalation by {detail} (critical_objection_action=hold)", objectors⟩
    | .FinalizeDecline =>
      if outcomePositive then
        .denied ⟨"veto",
          (s!"veto blocks a positive commitment: {detail} " ++
            "(critical_objection_action=finalize_decline)"),
          objectors⟩
      else .allowed s!"critical-objection veto finalized as a decline: {detail}"

/-- The participation floor, where a commitment requires it. -/
def checkVoteQuorum (participants : List String) : Findings :=
  let quorum := rules.voting.quorum
  let voters := countUniqueVoters state.votes
  let total := participants.length
  if rules.commitment.requireVoteQuorum
      && !checkQuorum quorum.quorumType quorum.value voters total then
    let shown := render.float quorum.value
    .denied (.new "quorum_not_met"
      (s!"vote quorum not met: {voters} voters of {total} participants (quorum: {shown} " ++
        s!"{quorum.quorumType})"))
  else .nothing

variable (schemaVersion : ℕ)

/-- A positive commitment on the result of the vote. -/
def approveOn : VotingResult → Findings
  | .Passed reason => .allowed reason
  | .Failed reason => .denied (.new "threshold_not_met" reason)
  | .NoVotes =>
    if 3 ≤ schemaVersion then
      .denied (.new "no_votes"
        (s!"no decisive votes cast: under policy schema_version {schemaVersion} the " ++
          s!"'{rules.voting.algorithm}' voting algorithm is binding on an empty tally and does " ++
          "not authorize a positive commitment (RFC-MACP-0012 §4.1)"))
    else if rules.commitment.requireVoteQuorum then .denied (.new "no_votes" "no votes cast")
    else .nothing

/-- A decline on the result of the vote: whatever the result, a decisive rejection must back
it. -/
def declineOn : VotingResult → Findings
  | .Passed reason =>
    if !rules.commitment.allowDeclineOverApproval then
      .denied (.new "decline_over_approval"
        ("vote passed the approval threshold but a decline was requested; set " ++
          s!"commitment.allow_decline_over_approval to permit an executive override ({reason})"))
    else if 0 < countDecisiveRejects state.votes rules.voting.algorithm rules.voting.weights then
      .allowed
        ("decline authorized over a passing approval vote (allow_decline_over_approval=true): " ++
          s!"{reason}")
    else
      let detail :=
        if rules.voting.algorithm == "weighted" then
          ("a REJECT from a participant outside voting.weights is non-decisive, and " ++
            "incomplete participation is not a rejection")
        else
          "no REJECT was cast; neither an abstention nor a missing ballot is a rejection"
      .denied (.new "decline_not_backed"
        ("allow_decline_over_approval permits a decline over a passing vote, but no decisive " ++
          s!"reject backs it ({detail}): {reason}"))
  | .Failed reason =>
    if 0 < countDecisiveRejects state.votes rules.voting.algorithm rules.voting.weights then
      .allowed s!"decline backed by conclusive rejection: {reason}"
    else
      .denied (.new "decline_not_backed"
        ("approval threshold not met but no decisive reject to justify a decline (incomplete " ++
          s!"participation is not a rejection): {reason}"))
  | .NoVotes =>
    .denied (.new "decline_not_backed"
      "no votes cast; a decline requires at least one decisive explicit reject vote")

/-- The result of the vote against the requested outcome; `none` takes the outcome at face
value. -/
def checkVotes (participants : List String) (outcomePositive : Bool) : Findings :=
  if rules.voting.algorithm == "none" then
    .allowed "voting algorithm is 'none'; no vote threshold required"
  else if objectionAuthorizedDecline rules state outcomePositive then .nothing
  else
    let result := checkVotingAlgorithm render rules.voting state.votes participants
    if outcomePositive then approveOn rules schemaVersion result else declineOn rules state result

/-- All checks of a decision commitment.  A decline that the objections authorize is excused
from the evaluations, the quorum and the vote. -/
def findings (participants : List String) (outcomePositive : Bool) : Findings :=
  let excused := objectionAuthorizedDecline rules state outcomePositive
  (if excused then .nothing else checkEvaluations render rules state)
    ++ checkVeto rules state outcomePositive
    ++ (if excused then .nothing else checkVoteQuorum render rules state participants)
    ++ checkVotes render rules state schemaVersion participants outcomePositive

end Checks

end Decision

variable (schemas : RuleSchemas)

/-- A decision commitment under its policy. -/
def evaluateDecisionCommitmentOutcome (render : Rendering)
    (policy : PolicyDefinition) (state : Decision.State) (participants : List String)
    (outcomePositive : Bool) : PolicyDecision :=
  withRules schemas.decision policy fun rules =>
    match Decision.decisionValueDomainError render rules with
    | some reason =>
      .Deny [.new "invalid_rules"
        s!"policy '{policy.policyId}' rules are out of domain at evaluation time: {reason}"]
    | none =>
      (Decision.findings render rules state policy.schemaVersion participants
        outcomePositive).conclude "policy constraints satisfied"

/-! ### The other modes -/

variable (policy : PolicyDefinition)

/-- A proposal commitment: the round limit binds a positive one only. -/
def evaluateProposalCommitmentOutcome (counterProposalCount : ℕ) (outcomePositive : Bool) :
    PolicyDecision :=
  withRules schemas.proposal policy fun rules =>
    let checked : Findings :=
      if 0 < rules.maxRounds ∧ rules.maxRounds < counterProposalCount then
        if outcomePositive then
          .denied (.new "criterion_not_met"
            (s!"counter-proposal limit exceeded: {counterProposalCount} of {rules.maxRounds} " ++
              "allowed"))
        else .allowed "round limit exceeded but outcome is a decline: limit not applicable"
      else .nothing
    checked.conclude "proposal policy constraints satisfied"

/-- A task commitment: required output binds a positive one only. -/
def evaluateTaskCommitmentOutcome (hasOutput outcomePositive : Bool) : PolicyDecision :=
  withRules schemas.task policy fun rules =>
    let checked : Findings :=
      if rules.requireOutput && !hasOutput then
        if outcomePositive then
          .denied (.new "output_required" "policy requires task output before commitment")
        else .allowed "negative outcome (task failure): output requirement not applicable"
      else .nothing
    checked.conclude "task policy constraints satisfied"

/-- A handoff commitment: its rules act on messages and not on commitments. -/
def evaluateHandoffCommitmentOutcome : PolicyDecision :=
  withRules schemas.handoff policy fun _ => .Allow ["handoff policy constraints satisfied"]

/-- The approval bar on a positive commitment; an inert threshold is no bar here. -/
def checkApprovals (render : Rendering) (threshold : QuorumThreshold)
    (approveCount totalParticipants : ℕ) (outcomePositive : Bool) : Findings :=
  match threshold.effective totalParticipants with
  | .Inert => .nothing
  | .Approvals required =>
    if outcomePositive && decide (approveCount < required.toNat) then
      let shown := render.float threshold.value
      .denied (.new "threshold_not_met"
        (s!"approval threshold not met: {approveCount} of {required.toNat} required approvals " ++
          s!"({shown} {threshold.thresholdType})"))
    else if !outcomePositive then
      .allowed "negative outcome: approval threshold does not gate a decline"
    else .nothing
  | .Unsatisfiable =>
    if outcomePositive then
      .denied (.new "threshold_not_met"
        (s!"approval threshold '{threshold.thresholdType}' cannot be satisfied by this " ++
          s!"runtime ({totalParticipants} participants): no positive commitment is possible"))
    else .allowed "negative outcome: approval threshold does not gate a decline"

/-- Abstentions read as rejections are reported and gate nothing. -/
def reportAbstentions (abstention : AbstentionRules) (rejectCount abstainCount : ℕ) : Findings :=
  let effective :=
    if abstention.interpretation == "implicit_reject" then rejectCount + abstainCount
    else rejectCount
  if rejectCount < effective then
    .allowed s!"abstentions interpreted as implicit rejections: {effective} effective rejections"
  else .nothing

/-- A quorum commitment. -/
def evaluateQuorumCommitmentOutcome (render : Rendering)
    (policy : PolicyDefinition) (approveCount rejectCount abstainCount totalParticipants : ℕ)
    (outcomePositive : Bool) : PolicyDecision :=
  withRules schemas.quorum policy fun rules =>
    (checkApprovals render rules.threshold approveCount totalParticipants outcomePositive
      ++ reportAbstentions rules.abstention rejectCount abstainCount).conclude
        "quorum policy constraints satisfied"

/-- The `DefaultPolicyEvaluator`. -/
def defaultPolicyEvaluator (render : Rendering) : PolicyEvaluator :=
  fun ctx =>
    match ctx.mode with
    | .Decision state =>
      evaluateDecisionCommitmentOutcome schemas render ctx.policy state ctx.participants
        ctx.outcomePositive
    | .Proposal counterProposalCount =>
      evaluateProposalCommitmentOutcome schemas ctx.policy counterProposalCount
        ctx.outcomePositive
    | .Task hasOutput =>
      evaluateTaskCommitmentOutcome schemas ctx.policy hasOutput ctx.outcomePositive
    | .Handoff => evaluateHandoffCommitmentOutcome schemas ctx.policy
    | .Quorum approveCount rejectCount abstainCount =>
      evaluateQuorumCommitmentOutcome schemas render ctx.policy approveCount rejectCount
        abstainCount ctx.participants.length ctx.outcomePositive

end MacpRuntime
