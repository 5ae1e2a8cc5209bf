import MacpRuntime.Lib.FloatText
import MacpRuntime.Modes.Util

/-!
The typed rule sets of a policy (`macp-core/src/policy/rules.rs`), and the one resolution of a
quorum threshold that the quorum mode and the policy evaluator share: no bar when the value is not
positive; otherwise a number of approvals, rounded up and at least one; or a bar nobody can meet.
-/

namespace MacpRuntime

/-! ### Rule sets -/

/-- The voting quorum of the decision rules. -/
structure QuorumRules where
  quorumType : String
  value : Float

def QuorumRules.default : QuorumRules := ⟨"count", 0⟩

/-- How votes are counted. -/
structure VotingRules where
  algorithm : String
  threshold : Float
  quorum : QuorumRules
  weights : Std.ExtTreeMap String Float

def VotingRules.default : VotingRules := ⟨"none", 0.5, .default, ∅⟩

/-- What a veto by critical objections does to a commitment. -/
inductive CriticalObjectionAction where
  | Deny
  | FinalizeDecline
  | Hold
  deriving DecidableEq, Repr

/-- What a critical objection does. -/
structure ObjectionHandlingRules where
  criticalSeverityVetoes : Bool
  vetoThreshold : ℕ
  criticalObjectionAction : CriticalObjectionAction

def ObjectionHandlingRules.default : ObjectionHandlingRules := ⟨false, 1, .Deny⟩

/-- What evaluations are required. -/
structure EvaluationRules where
  requiredBeforeVoting : Bool
  minimumConfidence : Float

def EvaluationRules.default : EvaluationRules := ⟨false, 0⟩

/-- The decision rule set. -/
structure DecisionPolicyRules where
  voting : VotingRules
  objectionHandling : ObjectionHandlingRules
  evaluation : EvaluationRules
  commitment : CommitmentRules

def DecisionPolicyRules.default : DecisionPolicyRules := ⟨.default, .default, .default, .default⟩

/-- The proposal rule set. -/
structure ProposalPolicyRules where
  criterion : String
  maxRounds : ℕ
  terminalOnAnyReject : Bool
  commitment : CommitmentRules

def ProposalPolicyRules.default : ProposalPolicyRules where
  criterion := "all_parties"
  maxRounds := 0
  terminalOnAnyReject := false
  commitment := .default

/-- The task rule set. -/
structure TaskPolicyRules where
  allowReassignmentOnReject : Bool
  requireOutput : Bool
  commitment : CommitmentRules

def TaskPolicyRules.default : TaskPolicyRules where
  allowReassignmentOnReject := false
  requireOutput := false
  commitment := .default

/-- The approval threshold of the quorum mode. -/
structure QuorumThreshold where
  thresholdType : String
  value : Float

def QuorumThreshold.default : QuorumThreshold := ⟨"n_of_m", 0⟩

/-- What an abstention counts for. -/
structure AbstentionRules where
  countsTowardQuorum : Bool
  interpretation : String

def AbstentionRules.default : AbstentionRules := ⟨false, "neutral"⟩

/-- The quorum rule set. -/
structure QuorumPolicyRules where
  threshold : QuorumThreshold
  abstention : AbstentionRules
  commitment : CommitmentRules

def QuorumPolicyRules.default : QuorumPolicyRules := ⟨.default, .default, .default⟩

/-- The readers of the rule sets. -/
structure RuleSchemas where
  decision : Json → Except String DecisionPolicyRules
  proposal : Json → Except String ProposalPolicyRules
  task : Json → Except String TaskPolicyRules
  handoff : Json → Except String HandoffPolicyRules
  quorum : Json → Except String QuorumPolicyRules

/-- Readers under which every policy has the default rules. -/
def RuleSchemas.plain : RuleSchemas where
  decision := fun _ => .ok .default
  proposal := fun _ => .ok .default
  task := fun _ => .ok .default
  handoff := fun _ => .ok .default
  quorum := fun _ => .ok .default

variable (schemas : RuleSchemas)

/-- The quorum rules a mode works with: the defaults when they do not parse. -/
def RuleSchemas.quorumOrDefault (rules : Json) : QuorumPolicyRules :=
  (schemas.quorum rules).toOption.getD .default

/-- The proposal rules a mode works with. -/
def RuleSchemas.proposalOrDefault (rules : Json) : ProposalPolicyRules :=
  (schemas.proposal rules).toOption.getD .default

/-- The task rules a mode works with. -/
def RuleSchemas.taskOrDefault (rules : Json) : TaskPolicyRules :=
  (schemas.task rules).toOption.getD .default

/-! ### Quorum thresholds -/

/-- The approval bar a threshold imposes on one session. -/
inductive EffectiveThreshold where
  | Inert
  | Approvals (required : UInt32)
  | Unsatisfiable
  deriving DecidableEq, Repr

/-- `required.ceil() as u32`, and at least one. -/
def approvalsOf (required : Float) : UInt32 :=
  .ofNat (max (Double.ceilTo (2 ^ 32 - 1) required) 1)

/-- Resolve a threshold against the number of declared participants. -/
def QuorumThreshold.effective (t : QuorumThreshold) (totalParticipants : ℕ) : EffectiveThreshold :=
  -- what is not comparable with zero imposes no bar either
  if ¬ 0 < t.value then .Inert
  else if t.thresholdType == "percentage" then
    if totalParticipants = 0 then .Unsatisfiable
    else if Double.isWhole t.value then
      let scaled := min (Double.truncTo (2 ^ 128 - 1) t.value * totalParticipants) (2 ^ 128 - 1)
      .Approvals (.ofNat (max (min ((scaled + 99) / 100) (2 ^ 32 - 1)) 1))
    else .Approvals (approvalsOf (t.value * Float.ofNat totalParticipants / 100))
  else if t.thresholdType == "n_of_m" || t.thresholdType == "count" then
    .Approvals (approvalsOf t.value)
  else .Unsatisfiable

example : (QuorumThreshold.mk "percentage" 7).effective 100 = .Approvals 7 := by decide +kernel

example : (QuorumThreshold.mk "count" 2.4).effective 3 = .Approvals 3 := by decide +kernel

example : (QuorumThreshold.mk "weighted" 2).effective 3 = .Unsatisfiable := by decide +kernel

end MacpRuntime
