import MacpRuntime.Lib.Serde
import MacpRuntime.Policy.Rules

/-!
The rule sets of a policy as `serde` reads them from its JSON rules
(`macp-core/src/policy/rules.rs`, `policy/mod.rs`): one reader for each, with the defaults of its
fields.  Keys that a struct does not define are skipped; the parser of doubles and the texts of the
errors are `serde_json`'s.
-/

namespace MacpRuntime

open Serde

/-! ### Commitments -/

/-- `CommitmentRules`. -/
def readCommitmentRules : Json → Option CommitmentRules :=
  struct CommitmentRules.mk <|
    .field "authority" text "initiator_only" <|
    .field "designated_roles" texts [] <|
    .field "require_vote_quorum" flag false <|
    .field "allow_decline_over_approval" flag false .nil

/-! ### Decision -/

section Decision

variable (t : FloatText)

/-- `QuorumRules`. -/
def readQuorumRules : Json → Option QuorumRules :=
  struct QuorumRules.mk <|
    .field "type" text "count" <|
    .field "value" t.fromJson 0 .nil

/-- `VotingRules`. -/
def readVotingRules : Json → Option VotingRules :=
  struct VotingRules.mk <|
    .field "algorithm" text "none" <|
    .field "threshold" t.fromJson 0.5 <|
    .field "quorum" (readQuorumRules t) .default <|
    .field "weights" (doubles t) ∅ .nil

/-- `CriticalObjectionAction`, by name. -/
def criticalObjectionAction (name : String) : Option CriticalObjectionAction :=
  if name = "deny" then some .Deny
  else if name = "finalize_decline" then some .FinalizeDecline
  else if name = "hold" then some .Hold
  else none

/-- `ObjectionHandlingRules`. -/
def readObjectionHandlingRules : Json → Option ObjectionHandlingRules :=
  struct ObjectionHandlingRules.mk <|
    .field "critical_severity_vetoes" flag false <|
    .field "veto_threshold" (natural (2 ^ 32)) 1 <|
    .field "critical_objection_action" (unitVariant criticalObjectionAction) .Deny .nil

/-- `EvaluationRules`. -/
def readEvaluationRules : Json → Option EvaluationRules :=
  struct EvaluationRules.mk <|
    .field "required_before_voting" flag false <|
    .field "minimum_confidence" t.fromJson 0 .nil

/-- `DecisionPolicyRules`. -/
def readDecisionPolicyRules : Json → Option DecisionPolicyRules :=
  struct DecisionPolicyRules.mk <|
    .field "voting" (readVotingRules t) .default <|
    .field "objection_handling" readObjectionHandlingRules .default <|
    .field "evaluation" (readEvaluationRules t) .default <|
    .field "commitment" readCommitmentRules .default .nil

end Decision

/-! ### Proposal, task and handoff -/

/-- A section with one field. -/
def readSection {α : Type} (key : String) (read : Json → Option α) (default : α) :
    Json → Option α :=
  struct id (.field key read default .nil)

/-- `ProposalPolicyRules`. -/
def readProposalPolicyRules : Json → Option ProposalPolicyRules :=
  struct ProposalPolicyRules.mk <|
    .field "acceptance" (readSection "criterion" text "all_parties") "all_parties" <|
    .field "counter_proposal" (readSection "max_rounds" (natural (2 ^ 64)) 0) 0 <|
    .field "rejection" (readSection "terminal_on_any_reject" flag false) false <|
    .field "commitment" readCommitmentRules .default .nil

/-- `TaskPolicyRules`. -/
def readTaskPolicyRules : Json → Option TaskPolicyRules :=
  struct TaskPolicyRules.mk <|
    .field "assignment" (readSection "allow_reassignment_on_reject" flag false) false <|
    .field "completion" (readSection "require_output" flag false) false <|
    .field "commitment" readCommitmentRules .default .nil

/-- `HandoffPolicyRules`. -/
def readHandoffPolicyRules : Json → Option HandoffPolicyRules :=
  struct (fun timeout commitment => ⟨.ofNat timeout, commitment⟩) <|
    .field "acceptance" (readSection "implicit_accept_timeout_ms" (natural (2 ^ 64)) 0) 0 <|
    .field "commitment" readCommitmentRules .default .nil

/-- The readers of the rules that the modes use, as `serde` derives them. -/
def RulesReader.serde : RulesReader := ⟨readCommitmentRules, readHandoffPolicyRules⟩

/-! ### Quorum -/

section Quorum

variable (t : FloatText)

/-- `QuorumThreshold`. -/
def readQuorumThreshold : Json → Option QuorumThreshold :=
  struct QuorumThreshold.mk <|
    .field "type" text "n_of_m" <|
    .field "value" t.fromJson 0 .nil

/-- `AbstentionRules`. -/
def readAbstentionRules : Json → Option AbstentionRules :=
  struct AbstentionRules.mk <|
    .field "counts_toward_quorum" flag false <|
    .field "interpretation" text "neutral" .nil

/-- `QuorumPolicyRules`. -/
def readQuorumPolicyRules : Json → Option QuorumPolicyRules :=
  struct QuorumPolicyRules.mk <|
    .field "threshold" (readQuorumThreshold t) .default <|
    .field "abstention" readAbstentionRules .default <|
    .field "commitment" readCommitmentRules .default .nil

end Quorum

/-! ### The readers together -/

/-- A reader with the text of its error. -/
def explained {ρ : Type} (read : Json → Option ρ) (explain : Json → String) (v : Json) :
    Except String ρ :=
  match read v with
  | some rules => .ok rules
  | none => .error (explain v)

@[simp] lemma explained_eq_ok {ρ : Type} {read : Json → Option ρ} {explain : Json → String}
    {v : Json} {rules : ρ} : explained read explain v = .ok rules ↔ read v = some rules := by
  unfold explained
  cases read v <;> simp

/-- The readers that `serde` derives.  `explain` gives the text of an error. -/
def RuleSchemas.serde (t : FloatText) (explain : Json → String) : RuleSchemas where
  decision := explained (readDecisionPolicyRules t) explain
  proposal := explained readProposalPolicyRules explain
  task := explained readTaskPolicyRules explain
  handoff := explained readHandoffPolicyRules explain
  quorum := explained (readQuorumPolicyRules t) explain

/-- No rules at all are the default rules. -/
example : readDecisionPolicyRules exactDecimal (.object []) = some .default := rfl

end MacpRuntime
