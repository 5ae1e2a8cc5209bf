import MacpRuntime.Core.SessionStart
import MacpRuntime.Lib.JsonEq

/-!
The keys of a standards-track rules object (`macp-core/src/policy/keys.rs`).  A key is defined by
the schema of the mode, or is an annotation, or, at the top level, names a vendor extension.
Objects hold their members by key, so that the first violation in their order is the first one by
key.
-/

namespace MacpRuntime

/-- `Value::is_object`. -/
def isObject : Json → Bool
  | .object _ => true
  | _ => false

/-! ### Kinds of keys -/

/-- The annotation namespace, `^[_$]`. -/
def isAnnotationKey (key : String) : Bool := startsWith key "_" || startsWith key "$"

/-- A segment of a vendor-extension key. -/
def isSegment (extra : Char → Bool) (segment : List Char) : Bool :=
  !segment.isEmpty && segment.all fun c => c.isLower || c.isDigit || extra c

/-- The vendor namespace, `^x-[a-z0-9]+(\.[a-z0-9-]+)+$`. -/
def isVendorExtensionKey (key : String) : Bool :=
  match key.toList with
  | 'x' :: '-' :: rest =>
    match rest.splitOn '.' with
    | first :: second :: segments =>
      isSegment (fun _ => false) first && (second :: segments).all (isSegment (· == '-'))
    | _ => false
  | _ => false

/-! ### Shapes -/

/-- The shape of one position in a rule schema. -/
inductive RuleShape where
  | Closed (keys : List (String × RuleShape))
  | Map
  | Leaf

open RuleShape

/-- A closed object of scalars. -/
def leaves (keys : List String) : RuleShape := Closed (keys.map fun key => (key, Leaf))

/-- The commitment section of every mode. -/
def commitmentCommon : RuleShape := leaves ["authority", "designated_roles"]

/-- The rules of a decision. -/
def decisionRules : RuleShape := Closed
  [("voting", Closed [("algorithm", Leaf), ("threshold", Leaf),
      ("quorum", leaves ["type", "value"]), ("weights", Map)]),
    ("objection_handling",
      leaves ["critical_objection_action", "critical_severity_vetoes", "veto_threshold"]),
    ("evaluation", leaves ["minimum_confidence", "required_before_voting"]),
    ("commitment", leaves
      ["allow_decline_over_approval", "authority", "designated_roles", "require_vote_quorum"])]

/-- The rules of a proposal. -/
def proposalRules : RuleShape := Closed
  [("acceptance", leaves ["criterion"]), ("counter_proposal", leaves ["max_rounds"]),
    ("rejection", leaves ["terminal_on_any_reject"]), ("commitment", commitmentCommon)]

/-- The rules of a task. -/
def taskRules : RuleShape := Closed
  [("assignment", leaves ["allow_reassignment_on_reject"]),
    ("completion", leaves ["require_output"]), ("commitment", commitmentCommon)]

/-- The rules of a handoff. -/
def handoffRules : RuleShape := Closed
  [("acceptance", leaves ["implicit_accept_timeout_ms"]), ("commitment", commitmentCommon)]

/-- The rules of a quorum. -/
def quorumRules : RuleShape := Closed
  [("threshold", leaves ["type", "value"]),
    ("abstention", leaves ["counts_toward_quorum", "interpretation"]),
    ("commitment", commitmentCommon)]

/-- `STANDARDS_TRACK_RULE_SHAPES`. -/
def standardsTrackRuleShapes : List (String × RuleShape) :=
  [("macp.mode.decision.v1", decisionRules), ("macp.mode.proposal.v1", proposalRules),
    ("macp.mode.task.v1", taskRules), ("macp.mode.handoff.v1", handoffRules),
    ("macp.mode.quorum.v1", quorumRules)]

/-- The shapes a policy is held to; the rules of an extension mode are opaque. -/
def ruleShapeForMode (mode : String) : Option (List RuleShape) :=
  if mode = "*" then some (standardsTrackRuleShapes.map (·.2))
  else (standardsTrackRuleShapes.lookup mode).map fun shape => [shape]

/-- The key sets of the closed candidates among some shapes. -/
def closedKeys (shapes : List RuleShape) : List (List (String × RuleShape)) :=
  shapes.filterMap fun
    | Closed keys => some keys
    | _ => none

/-- The shapes the candidates give a key. -/
def childShapes (closed : List (List (String × RuleShape))) (key : String) : List RuleShape :=
  (closed.flatten.filter (·.1 == key)).map (·.2)

/-! ### Violations -/

/-- What is wrong with a key. -/
inductive KeyViolation where
  | Undefined (path : String)
  | NestedVendorExtension (path : String)
  | VendorExtensionNotObject (key : String)
  deriving DecidableEq, Repr

/-- Its text. -/
def KeyViolation.display : KeyViolation → String
  | .Undefined path =>
    s!"rules.{path} is not a defined key (RFC-MACP-0012 §4: rule objects are closed; " ++
      "annotation keys must match ^[_$])"
  | .NestedVendorExtension path =>
    s!"rules.{path}: vendor-extension keys are legal only at the top level of rules"
  | .VendorExtensionNotObject key =>
    s!"rules.{key}: a vendor-extension value must be a JSON object"

/-- The path of a member. -/
def childPath (path key : String) : String := if path.isEmpty then key else s!"{path}.{key}"

mutual

/-- The first closed-object breach in a value; what is no object is left to the typed parse. -/
def walkKeys : Json → List RuleShape → String → Bool → Option KeyViolation
  | .object members, shapes, path, top =>
    if (closedKeys shapes).isEmpty then none
    else walkMembers members (closedKeys shapes) path top
  | _, _, _, _ => none

/-- The first violation among members. -/
def walkMembers : List (String × Json) → List (List (String × RuleShape)) → String → Bool →
    Option KeyViolation
  | [], _, _, _ => none
  | (key, v) :: members, closed, path, top =>
    if isAnnotationKey key then walkMembers members closed path top
    else if isVendorExtensionKey key then
      if !top then some (.NestedVendorExtension (childPath path key))
      else if !isObject v then some (.VendorExtensionNotObject key)
      else walkMembers members closed path top
    else if (childShapes closed key).isEmpty then some (.Undefined (childPath path key))
    else
      match walkKeys v (childShapes closed key) (childPath path key) false with
      | some violation => some violation
      | none => walkMembers members closed path top

end

/-- The first violation of some shapes. -/
def closedKeyViolation (rules : Json) (shapes : List RuleShape) : Option KeyViolation :=
  walkKeys rules shapes "" true

/-- The top-level vendor-extension keys. -/
def vendorExtensionKeys : Json → List String
  | .object members => (members.map (·.1)).filter isVendorExtensionKey
  | _ => []

/-! ### Equality up to annotations -/

mutual

/-- A value without the annotations of its closed objects.  The keys of a map are data. -/
def strip : Json → List RuleShape → Json
  | .object members, shapes =>
    if (closedKeys shapes).isEmpty then .object members
    else .object (stripMembers members (closedKeys shapes))
  | v, _ => v

/-- Members without annotations. -/
def stripMembers : List (String × Json) → List (List (String × RuleShape)) → List (String × Json)
  | [], _ => []
  | (key, v) :: members, closed =>
    if isAnnotationKey key then stripMembers members closed
    else (key, strip v (childShapes closed key)) :: stripMembers members closed

end

/-- Rules without annotations. -/
def stripAnnotations (rules : Json) (shapes : List RuleShape) : Json := strip rules shapes

/-- Equality of the rules of two policies of a mode: up to annotations, with vendor extensions
counted. -/
def rulesEqual (t : FloatText) (mode : String) (a b : Json) : Bool :=
  let shapes := (ruleShapeForMode mode).getD []
  t.same (stripAnnotations a shapes) (stripAnnotations b shapes)

example : rulesEqual exactDecimal "macp.mode.task.v1"
    (.object [("_note", .string "n"), ("completion", .object [("require_output", .bool true)])])
    (.object [("completion", .object [("$id", .null), ("require_output", .bool true)])])
      = true := by
  decide

example : isVendorExtensionKey "x-com.example.gov" = true := by decide

example : isVendorExtensionKey "x-com..example" = false := by decide

end MacpRuntime
