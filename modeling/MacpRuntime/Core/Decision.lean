import Std.Data.ExtTreeMap

/-!
The state of the decision mode (`macp-core/src/decision.rs`).  It belongs to the core because a
policy evaluator is given all of it.
-/

namespace MacpRuntime.Decision

/-- How far the deliberation is. -/
inductive Phase where
  | Proposal
  | Evaluation
  | Voting
  | Committed
  deriving DecidableEq, Repr

/-- An option that is put forward. -/
structure Proposal where
  proposalId : String
  option : String
  rationale : String
  sender : String
  deriving DecidableEq

/-- An assessment of a proposal. -/
structure Evaluation where
  proposalId : String
  recommendation : String
  confidence : Float
  reason : String
  sender : String
  deriving DecidableEq

/-- An objection to a proposal. -/
structure Objection where
  proposalId : String
  reason : String
  severity : String
  sender : String
  deriving DecidableEq

/-- A ballot on a proposal. -/
structure Vote where
  proposalId : String
  vote : String
  reason : String
  sender : String
  deriving DecidableEq

/-- The whole mode state; the votes on a proposal are held by voter. -/
structure State where
  proposals : Std.ExtTreeMap String Proposal
  evaluations : List Evaluation
  objections : List Objection
  votes : Std.ExtTreeMap String (Std.ExtTreeMap String Vote)
  phase : Phase

/-- Nothing proposed yet. -/
def State.default : State := ⟨∅, [], [], ∅, .Proposal⟩

end MacpRuntime.Decision
