import MacpRuntime.Lib.Fallible
import MacpRuntime.Policy.Evaluator
import MacpRuntime.Policy.Keys
import MacpRuntime.Policy.Schemas

/-!
The admission of a policy's rules (`macp-policy/src/registry.rs`, `defaults.rs`): the closed
objects, by key and by shape, the typed parse, and the domains of the parsed values.  `Admission` is
what it depends on besides the definition: the parser of doubles, the texts of its errors, and the
vendor extensions.
-/

namespace MacpRuntime

/-! ### Vocabularies -/

/-- `DECISION_VOTING_ALGORITHMS`. -/
def decisionVotingAlgorithms : List String :=
  ["none", "majority", "supermajority", "unanimous", "weighted", "plurality"]

/-- `DECISION_VOTING_QUORUM_TYPES`. -/
def decisionVotingQuorumTypes : List String := ["count", "percentage"]

/-- `QUORUM_THRESHOLD_TYPES`. -/
def quorumThresholdTypes : List String := ["n_of_m", "percentage", "count"]

/-- `COMMITMENT_AUTHORITIES`. -/
def commitmentAuthorities : List String := ["initiator_only", "any_participant", "designated_role"]

/-- `PROPOSAL_ACCEPTANCE_CRITERIA`. -/
def proposalAcceptanceCriteria : List String := ["all_parties", "counterparty", "initiator"]

/-- `QUORUM_ABSTENTION_INTERPRETATIONS`. -/
def quorumAbstentionInterpretations : List String := ["neutral", "implicit_reject", "ignored"]

/-- The positions whose value is the name of an enumeration. -/
def unitEnumPositions : List (String × String) :=
  [("macp.mode.decision.v1", "voting.algorithm"), ("macp.mode.decision.v1", "voting.quorum.type"),
    ("macp.mode.decision.v1", "objection_handling.critical_objection_action"),
    ("macp.mode.decision.v1", "commitment.authority"),
    ("macp.mode.proposal.v1", "acceptance.criterion"),
    ("macp.mode.proposal.v1", "commitment.authority"),
    ("macp.mode.task.v1", "commitment.authority"),
    ("macp.mode.handoff.v1", "commitment.authority"),
    ("macp.mode.quorum.v1", "threshold.type"),
    ("macp.mode.quorum.v1", "abstention.interpretation"),
    ("macp.mode.quorum.v1", "commitment.authority")]

/-- `STANDARDS_TRACK_POLICY_MODES`. -/
def standardsTrackPolicyModes : List String :=
  ["macp.mode.decision.v1", "macp.mode.proposal.v1", "macp.mode.task.v1", "macp.mode.handoff.v1",
    "macp.mode.quorum.v1"]

/-- The code every refusal of a definition leads with. -/
def invalidPolicyDefinition (reason : String) : String := "INVALID_POLICY_DEFINITION: " ++ reason

/-- A value that is not in its vocabulary. -/
def offEnum (path value : String) (vocabulary : List String) : String :=
  invalidPolicyDefinition (s!"{path} '{value}' is not one of: " ++ ", ".intercalate vocabulary)

/-- The JSON type of a value, in the words of a shape error. -/
def jsonKind : Json → String
  | .null => "null"
  | .bool _ => "a boolean"
  | .number _ => "a number"
  | .string _ => "a string"
  | .array _ => "an array"
  | .object _ => "an object"

/-! ### Shapes -/

/-- A path as messages show it. -/
def showPath (path : String) : String := if path.isEmpty then "rules" else s!"rules.{path}"

/-- Every candidate shape is that of an object. -/
def objectPosition (shapes : List RuleShape) : Bool :=
  !shapes.isEmpty && shapes.all fun
    | .Leaf => false
    | _ => true

mutual

/-- The first position that holds no object where the schema has one, or no text where it has an
enumeration. -/
def walkRuleShapes : Json → List RuleShape → String → List String → Option String
  | .object members, shapes, path, enums =>
    if objectPosition shapes then walkMemberShapes members (closedKeys shapes) path enums
    else if enums.contains path then
      some s!"{showPath path} must be a string (a value of the schema's enum), not an object"
    else none
  | v, shapes, path, enums =>
    if objectPosition shapes then some s!"{showPath path} must be a JSON object, not {jsonKind v}"
    else
      match v with
      | .string _ => none
      | _ =>
        if enums.contains path then
          some (s!"{showPath path} must be a string (a value of the schema's enum), not " ++
            jsonKind v)
        else none

/-- The first violation among members. -/
def walkMemberShapes : List (String × Json) → List (List (String × RuleShape)) → String →
    List String → Option String
  | [], _, _, _ => none
  | (key, v) :: members, closed, path, enums =>
    if (childShapes closed key).isEmpty then walkMemberShapes members closed path enums
    else
      match walkRuleShapes v (childShapes closed key) (childPath path key) enums with
      | some violation => some violation
      | none => walkMemberShapes members closed path enums

end

/-- The first violation of a mode's shapes. -/
def ruleShapeViolation (mode : String) (rules : Json) : Option String :=
  match ruleShapeForMode mode with
  | none => none
  | some shapes =>
    walkRuleShapes rules shapes ""
      ((unitEnumPositions.filter fun p => mode == "*" || p.1 == mode).map (·.2))

/-! ### Present values -/

/-- A present value that should be an object. -/
def notAnObject (path : List String) (v : Json) : String :=
  invalidPolicyDefinition
    ("rules." ++ ".".intercalate path ++ " must be a JSON object, not " ++ jsonKind v)

/-- The value at a path, if present; what is on the way to it must be an object. -/
def presentAt (node : Json) (walked : List String) : List String → Except String (Option Json)
  | [] => .ok (some node)
  | segment :: path =>
    match node with
    | .object members =>
      match members.lookup segment with
      | some child => presentAt child (walked ++ [segment]) path
      | none => .ok none
    | _ =>
      .error (notAnObject walked node)

lemma presentAt_object (members : List (String × Json)) (walked : List String) (segment : String)
    (path : List String) :
    presentAt (.object members) walked (segment :: path) =
      match members.lookup segment with
      | some child => presentAt child (walked ++ [segment]) path
      | none => .ok none := rfl

/-- A present value must be an object; its members. -/
def presentObject (rules : Json) (path : List String) :
    Except String (Option (List (String × Json))) :=
  match presentAt rules [] path with
  | .error e => .error e
  | .ok none => .ok none
  | .ok (some (.object members)) => .ok (some members)
  | .ok (some v) => .error (notAnObject path v)

/-- A present value must be a number. -/
def presentNumber (t : FloatText) (rules : Json) (path : List String) :
    Except String (Option Float) :=
  match presentAt rules [] path with
  | .error e => .error e
  | .ok none => .ok none
  | .ok (some v) =>
    match t.fromJson v with
    | some x => .ok (some x)
    | none =>
      .error (invalidPolicyDefinition
        ("rules." ++ ".".intercalate path ++ " must be a number, not " ++ jsonKind v))

/-! ### Domains of the parsed values -/

section Domains

variable (render : Rendering)

/-- The texts of a list, quoted. -/
def quotedTexts (texts : List String) : String :=
  ", ".intercalate (texts.map fun x => "'" ++ x ++ "'")

/-- The checks of the voting section. -/
def validateDecisionVoting (voting : VotingRules) : Except String Unit := do
  Except.refuseIf (voting.algorithm ∉ decisionVotingAlgorithms)
    (offEnum "voting.algorithm" voting.algorithm decisionVotingAlgorithms)
  let threshold := render.float voting.threshold
  Except.refuseIf (¬ (0 < voting.threshold ∧ voting.threshold ≤ 1))
    (invalidPolicyDefinition (s!"voting.threshold {threshold} is out of range: " ++
      "must be greater than 0.0 and at most 1.0"))
  let nonPositive := (voting.weights.toList.filter fun w => decide (w.2 ≤ 0) || w.2.isNaN).map (·.1)
  Except.refuseIf (nonPositive ≠ [])
    (invalidPolicyDefinition ("voting.weights has non-positive values for: " ++
      quotedTexts nonPositive ++ " — every weight must be > 0"))
  Except.refuseIf (voting.quorum.quorumType ∉ decisionVotingQuorumTypes)
    (offEnum "voting.quorum.type" voting.quorum.quorumType decisionVotingQuorumTypes)
  let value := render.float voting.quorum.value
  Except.refuseIf (voting.quorum.value < 0 ∨ voting.quorum.value.isNaN = true)
    (invalidPolicyDefinition s!"voting.quorum.value {value} is out of range: must be >= 0")

/-- The checks of the threshold. -/
def validateQuorumThreshold (threshold : QuorumThreshold) : Except String Unit := do
  Except.refuseIf (threshold.thresholdType ∉ quorumThresholdTypes)
    (offEnum "threshold.type" threshold.thresholdType quorumThresholdTypes)
  let value := render.float threshold.value
  Except.refuseIf (Double.isWhole threshold.value = false)
    (invalidPolicyDefinition s!"threshold.value {value} must be an integer")
  Except.refuseIf (threshold.thresholdType = "percentage" ∧ 100 < threshold.value)
    (invalidPolicyDefinition (s!"threshold.value {value} is out of range: " ++
      "must be <= 100 when threshold.type is 'percentage'"))

/-- The constraints on decision rules; a supplied empty electorate is told from an omitted one by
the raw rules. -/
def validateDecision (rules : Json) (decision : DecisionPolicyRules) : Except String Unit := do
  validateDecisionVoting render decision.voting
  Except.refuseSome
    ((Decision.decisionValueDomainError render decision).map invalidPolicyDefinition)
  let algorithm := decision.voting.algorithm
  Except.refuseIf (algorithm = "weighted" ∧ decision.voting.weights.isEmpty = true)
    (invalidPolicyDefinition
      "voting.algorithm 'weighted' requires non-empty voting.weights")
  let weights ← presentObject rules ["voting", "weights"]
  Except.refuseIf (weights = some [])
    (invalidPolicyDefinition "voting.weights must be non-empty when supplied")
  Except.refuseIf (algorithm = "supermajority" ∧ decision.voting.threshold ≤ 0.5)
    (invalidPolicyDefinition "voting.algorithm 'supermajority' requires voting.threshold > 0.5")
  Except.refuseIf (algorithm = "majority" ∧ decision.voting.threshold < 0.5)
    (invalidPolicyDefinition "voting.algorithm 'majority' requires voting.threshold >= 0.5")

/-- The constraints on a quorum threshold; a supplied zero is told from an omitted one by the raw
rules. -/
def validateQuorum (t : FloatText) (rules : Json) (quorum : QuorumPolicyRules) :
    Except String Unit := do
  validateQuorumThreshold render quorum.threshold
  let value ← presentNumber t rules ["threshold", "value"]
  let shown := render.float quorum.threshold.value
  Except.refuseIf (∃ x ∈ value, ¬ 0 < x)
    (invalidPolicyDefinition (s!"threshold.value {shown} is out of range: " ++
      "must be greater than 0 (RFC-MACP-0011 §5 rule 2)"))

/-- The check of the criterion. -/
def validateAcceptance (proposal : ProposalPolicyRules) : Except String Unit :=
  Except.refuseIf (proposal.criterion ∉ proposalAcceptanceCriteria)
    (offEnum "acceptance.criterion" proposal.criterion proposalAcceptanceCriteria)

/-- The check of the interpretation. -/
def validateAbstention (quorum : QuorumPolicyRules) : Except String Unit :=
  Except.refuseIf (quorum.abstention.interpretation ∉ quorumAbstentionInterpretations)
    (offEnum "abstention.interpretation" quorum.abstention.interpretation
      quorumAbstentionInterpretations)

/-- The checks of the commitment section. -/
def validateCommitment (commitment : CommitmentRules) : Except String Unit := do
  Except.refuseIf (commitment.authority ∉ commitmentAuthorities)
    (offEnum "commitment.authority" commitment.authority commitmentAuthorities)
  Except.refuseIf (commitment.authority = "designated_role" ∧ commitment.designatedRoles = [])
    (invalidPolicyDefinition
      "commitment.authority 'designated_role' requires non-empty commitment.designated_roles")

end Domains

/-! ### Reserved profiles -/

/-- A double as it is compared once serialized: what is not finite is `null`. -/
def sameDouble (a b : Float) : Bool :=
  if a.isFinite && b.isFinite then a == b else !a.isFinite && !b.isFinite

/-- Equality of parsed decision rules once serialized. -/
def sameDecisionRules (a b : DecisionPolicyRules) : Bool :=
  a.voting.algorithm == b.voting.algorithm && sameDouble a.voting.threshold b.voting.threshold
    && a.voting.quorum.quorumType == b.voting.quorum.quorumType
    && sameDouble a.voting.quorum.value b.voting.quorum.value
    && a.voting.weights.toList.map (·.1) == b.voting.weights.toList.map (·.1)
    && (a.voting.weights.toList.zip b.voting.weights.toList).all (fun p => sameDouble p.1.2 p.2.2)
    && a.objectionHandling.criticalSeverityVetoes == b.objectionHandling.criticalSeverityVetoes
    && a.objectionHandling.vetoThreshold == b.objectionHandling.vetoThreshold
    && a.objectionHandling.criticalObjectionAction == b.objectionHandling.criticalObjectionAction
    && a.evaluation.requiredBeforeVoting == b.evaluation.requiredBeforeVoting
    && sameDouble a.evaluation.minimumConfidence b.evaluation.minimumConfidence
    && a.commitment == b.commitment

/-- A built-in profile: a voting section, and a binding quorum. -/
def stdPolicy (policyId description : String) (voting : List (String × Json)) :
    PolicyDefinition where
  policyId := policyId
  mode := "macp.mode.decision.v1"
  description := description
  rules := .object [("commitment", .object [("require_vote_quorum", .bool true)]),
    ("voting", .object voting)]
  schemaVersion := 1

/-- A participation floor by count. -/
def countQuorum (value : UInt64) : String × Json :=
  ("quorum", .object [("type", .string "count"), ("value", .number (.posInt value))])

/-- `policy.std.majority`. -/
def stdMajorityPolicy : PolicyDefinition :=
  stdPolicy "policy.std.majority" "Simple majority — at least half of the decisive votes approve"
    [("algorithm", .string "majority"), countQuorum 1, ("threshold", .number (.float "0.5"))]

/-- `policy.std.supermajority`. -/
def stdSupermajorityPolicy : PolicyDefinition :=
  stdPolicy "policy.std.supermajority" "Two-thirds supermajority with a minimum of two voters"
    [("algorithm", .string "supermajority"), countQuorum 2,
      ("threshold", .number (.float "0.6666666666666666"))]

/-- `policy.std.unanimous`. -/
def stdUnanimousPolicy : PolicyDefinition :=
  stdPolicy "policy.std.unanimous"
    "Unanimous — every declared participant approves and no reject is cast"
    [("algorithm", .string "unanimous"), countQuorum 1]

/-- The standard policy of an id. -/
def canonicalStdPolicy (policyId : String) : Option PolicyDefinition :=
  [stdMajorityPolicy, stdSupermajorityPolicy, stdUnanimousPolicy].find? (·.policyId == policyId)

/-! ### Admission -/

/-- What admission depends on besides the definition. -/
structure Admission where
  floats : FloatText
  explain : Json → String
  render : Rendering
  extensions : Std.ExtTreeMap String (Json → Except String Unit)

namespace Admission

variable (a : Admission)

/-- The readers of the rule sets, which the evaluator uses as well. -/
def schemas : RuleSchemas := .serde a.floats a.explain

/-- The values of the vendor extensions of some rules. -/
def extensionValues (rules : Json) : List (String × Option Json) :=
  (vendorExtensionKeys rules).map fun key => (key, rules.get? key)

/-- One vendor extension, by its own validator. -/
def validateExtension (rules : Json) (key : String) : Except String Unit :=
  match a.extensions[key]? with
  | none =>
    let undefined := (KeyViolation.Undefined key).display
    let implemented := ", ".intercalate (a.extensions.toList.map fun e => "\"" ++ e.1 ++ "\"")
    .error (invalidPolicyDefinition
      (s!"{undefined}; this runtime implements no vendor extension '{key}' (implemented: " ++
        "[" ++ implemented ++ "])"))
  | some validate =>
    match validate ((rules.get? key).getD .null) with
    | .ok _ => .ok ()
    | .error reason =>
      .error (invalidPolicyDefinition s!"rules.{key} rejected by its extension: {reason}")

variable (mode : String) (rules : Json)

/-- Closed objects, and the vendor extensions this registry implements. -/
def validateRuleKeys : Except String Unit :=
  match ruleShapeForMode mode with
  | none => .ok ()
  | some shapes =>
    match closedKeyViolation rules shapes with
    | some violation => .error (invalidPolicyDefinition violation.display)
    | none => (vendorExtensionKeys rules).forM (a.validateExtension rules)

/-- Whether two definitions give the same rules. -/
def resolvesToSameRules (candidate canonical : PolicyDefinition) : Bool :=
  candidate.mode == canonical.mode && candidate.schemaVersion == canonical.schemaVersion
    && decide (extensionValues candidate.rules = extensionValues canonical.rules)
    && match readDecisionPolicyRules a.floats candidate.rules,
        readDecisionPolicyRules a.floats canonical.rules with
      | some parsed, some parsed' => sameDecisionRules parsed parsed'
      | _, _ => false

/-- The reserved namespace holds the canonical profiles and nothing else. -/
def validateReservedNamespace (definition : PolicyDefinition) : Except String Unit :=
  if !startsWith definition.policyId "policy.std." then .ok ()
  else
    match canonicalStdPolicy definition.policyId with
    | none =>
      .error (invalidPolicyDefinition
        (s!"policy_id '{definition.policyId}' is in the reserved 'policy.std.' namespace but is " ++
          "not a governance profile assigned by RFC-MACP-0012 §5.2"))
    | some canonical =>
      if a.resolvesToSameRules definition canonical then .ok ()
      else
        .error (invalidPolicyDefinition
          (s!"policy_id '{definition.policyId}' is reserved by RFC-MACP-0012 §2.2; a " ++
            "registration under it must be the canonical §5.2 definition verbatim"))

/-- The typed parse against one mode; an extension mode accepts any object. -/
def parsesForMode : Except String Unit :=
  let parsed : Except String Unit :=
    if mode = "macp.mode.decision.v1" then (a.schemas.decision rules).map fun _ => ()
    else if mode = "macp.mode.proposal.v1" then (a.schemas.proposal rules).map fun _ => ()
    else if mode = "macp.mode.task.v1" then (a.schemas.task rules).map fun _ => ()
    else if mode = "macp.mode.handoff.v1" then (a.schemas.handoff rules).map fun _ => ()
    else if mode = "macp.mode.quorum.v1" then (a.schemas.quorum rules).map fun _ => ()
    else .ok ()
  parsed.mapError fun e =>
    invalidPolicyDefinition s!"rules do not match schema for mode '{mode}': {e}"

/-- A wildcard is bound to sessions of every mode, so it is held to every schema. -/
def validateRulesForMode : Except String Unit :=
  if mode = "*" then standardsTrackPolicyModes.forM fun m => a.parsesForMode m rules
  else a.parsesForMode mode rules

/-- Constraints on rules that parse, for the modes a policy can govern. -/
def whenParsed {ρ : Type} (target : String) (parsed : Except String ρ)
    (validate : ρ → Except String Unit) : Except String Unit :=
  if mode = target ∨ mode = "*" then
    match parsed with
    | .ok rules => validate rules
    | .error _ => .ok ()
  else .ok ()

/-- The constraints that a schema cannot state. -/
def validateConditionalConstraints : Except String Unit := do
  whenParsed mode "macp.mode.decision.v1" (a.schemas.decision rules)
    (validateDecision a.render rules)
  whenParsed mode "macp.mode.quorum.v1" (a.schemas.quorum rules)
    (validateQuorum a.render a.floats rules)
  whenParsed mode "macp.mode.proposal.v1" (a.schemas.proposal rules) validateAcceptance
  whenParsed mode "macp.mode.quorum.v1" (a.schemas.quorum rules) validateAbstention
  match (rules.get? "commitment").bind readCommitmentRules with
  | some commitment => validateCommitment commitment
  | none => pure ()

/-- All checks of a definition's rules; a candidate that is not registered is excused from the
reserved namespace. -/
def validateRules (reservedNamespace : Bool) (definition : PolicyDefinition) :
    Except String Unit := do
  a.validateRuleKeys definition.mode definition.rules
  Except.refuseSome
    ((ruleShapeViolation definition.mode definition.rules).map invalidPolicyDefinition)
  (if reservedNamespace then a.validateReservedNamespace definition else pure ())
  a.validateRulesForMode definition.mode definition.rules
  a.validateConditionalConstraints definition.mode definition.rules

end Admission

end MacpRuntime
