import MacpRuntime.Policy.Annotations
import MacpRuntime.Policy.Soundness

/-!
Equal rules are admitted alike: registration accepts a definition exactly when it accepts one with
rules that are equal up to annotations.

Annotations are taken away once, and never the keys of `voting.weights` or a part of a vendor
extension.  No schema defines an annotation or a vendor extension (`Schematic`), so that what is
taken away is no key that the walks over the raw rules look at.
-/

namespace MacpRuntime

open Std
open Serde FloatText Double
open Except (Agree Related agree_refuseIf)

/-! ### Stripping -/

variable {shapes : List RuleShape} {key : String}

lemma strip_open (h : closedKeys shapes = []) (v : Json) : strip v shapes = v := by
  cases v with
  | object members => rw [strip, h, if_pos List.isEmpty_nil]
  | _ => simp only [strip]

lemma strip_closed (h : closedKeys shapes ≠ []) (members : List (String × Json)) :
    strip (.object members) shapes = .object (stripMembers members (closedKeys shapes)) := by
  rw [strip, if_neg (by rwa [List.isEmpty_iff])]

mutual

/-- What is stripped has nothing left to strip. -/
theorem strip_strip : ∀ (v : Json) (shapes : List RuleShape),
    strip (strip v shapes) shapes = strip v shapes
  | v, shapes => by
    by_cases hopen : closedKeys shapes = []
    · rw [strip_open hopen, strip_open hopen]
    · cases v with
      | object members => rw [strip_closed hopen, strip_closed hopen, stripMembers_stripMembers]
      | _ => simp only [strip]

theorem stripMembers_stripMembers : ∀ (members : List (String × Json))
    (closed : List (List (String × RuleShape))),
    stripMembers (stripMembers members closed) closed = stripMembers members closed
  | [], _ => by simp only [stripMembers]
  | (key, v) :: members, closed => by
    rw [stripMembers]
    split_ifs with hkey
    · exact stripMembers_stripMembers members closed
    · rw [stripMembers, if_neg hkey, strip_strip, stripMembers_stripMembers]

end

/-- A member whose key is no annotation is kept, and stripped by the shapes of its key. -/
lemma get?_strip (h : isAnnotationKey key = false) (v : Json) (shapes : List RuleShape) :
    (strip v shapes).get? key
      = (v.get? key).map fun child => strip child (childShapes (closedKeys shapes) key) := by
  by_cases hopen : closedKeys shapes = []
  · have hid : (fun child => strip child (childShapes (closedKeys shapes) key)) = id := by
      funext child
      rw [hopen]
      exact strip_open rfl child
    rw [strip_open hopen, hid, Option.map_id, id]
  · cases v with
    | object members =>
      rw [strip_closed hopen]
      exact lookup_stripMembers h members _
    | _ => simp only [strip, Json.get?, Option.map_none]

/-- The electorate is kept as it is. -/
lemma Weighable.strip_weights (h : Weighable shapes) (rules : Json) :
    ((strip rules shapes).get? "voting").bind (·.get? "weights")
      = (rules.get? "voting").bind (·.get? "weights") := by
  rw [get?_strip (by decide)]
  cases rules.get? "voting" with
  | none => rfl
  | some voting =>
    simp only [Option.map_some, Option.bind_some]
    rw [get?_strip (by decide)]
    simp only [strip_open h.weights, Option.map_id']

/-! ### Schemas -/

mutual

/-- A shape whose keys are neither annotations nor vendor extensions, all the way down. -/
def RuleShape.isSchematic : RuleShape → Bool
  | .Closed keys => areSchematic keys
  | .Map | .Leaf => true

/-- The same of the shapes of some keys. -/
def areSchematic : List (String × RuleShape) → Bool
  | [] => true
  | (key, shape) :: keys =>
    !isAnnotationKey key && !isVendorExtensionKey key && shape.isSchematic && areSchematic keys

end

/-- Candidates that define no annotation and no vendor extension. -/
def Schematic (shapes : List RuleShape) : Prop := ∀ shape ∈ shapes, shape.isSchematic = true

lemma areSchematic_iff {keys : List (String × RuleShape)} :
    areSchematic keys = true ↔ ∀ e ∈ keys,
      isAnnotationKey e.1 = false ∧ isVendorExtensionKey e.1 = false
        ∧ e.2.isSchematic = true := by
  induction keys with
  | nil => simp [areSchematic]
  | cons e keys ih =>
    obtain ⟨key, shape⟩ := e
    rw [areSchematic, List.forall_mem_cons, ← ih]
    simp [and_assoc]

namespace Schematic

variable {shapes : List RuleShape} (h : Schematic shapes)
include h

variable {key : String}

/-- The keys the candidates define. -/
lemma keys {shape : RuleShape} (hmem : shape ∈ childShapes (closedKeys shapes) key) :
    isAnnotationKey key = false ∧ isVendorExtensionKey key = false
      ∧ shape.isSchematic = true := by
  simp only [childShapes, List.mem_map, List.mem_filter, List.mem_flatten, beq_iff_eq] at hmem
  obtain ⟨⟨k, s⟩, ⟨⟨keys, hkeys, hmem⟩, rfl⟩, rfl⟩ := hmem
  obtain ⟨candidate, hcandidate, hclosed⟩ := List.mem_filterMap.mp hkeys
  cases candidate with
  | Closed keys' =>
    cases hclosed
    exact areSchematic_iff.mp (h _ hcandidate) _ hmem
  | Map => cases hclosed
  | Leaf => cases hclosed

lemma child (key : String) : Schematic (childShapes (closedKeys shapes) key) :=
  fun _ hshape => (h.keys hshape).2.2

lemma annotation (hkey : isAnnotationKey key = true) :
    childShapes (closedKeys shapes) key = [] := by
  refine List.eq_nil_iff_forall_not_mem.mpr fun shape hshape => ?_
  rw [(h.keys hshape).1] at hkey
  cases hkey

lemma vendor (hkey : isVendorExtensionKey key = true) :
    childShapes (closedKeys shapes) key = [] := by
  refine List.eq_nil_iff_forall_not_mem.mpr fun shape hshape => ?_
  rw [(h.keys hshape).2.1] at hkey
  cases hkey

end Schematic

lemma schematic_shapes (mode : String) : Schematic ((ruleShapeForMode mode).getD []) := by
  have hall : ∀ e ∈ standardsTrackRuleShapes, e.2.isSchematic = true := by decide
  exact ruleShapeForMode_cases (List.forall_mem_map.mpr hall)
    (fun _ hmem => absurd hmem List.not_mem_nil)
    (fun e he => by simpa [Schematic] using hall e he) mode

/-- An annotation names no vendor extension. -/
lemma isAnnotationKey_of_vendor (h : isVendorExtensionKey key = true) :
    isAnnotationKey key = false := by
  unfold isVendorExtensionKey at h
  split at h
  · rename_i rest hkey
    rw [isAnnotationKey, startsWith, startsWith, hkey]
    rfl
  · cases h

/-- A vendor extension is kept as it is. -/
lemma Schematic.strip_vendor (h : Schematic shapes) (hkey : isVendorExtensionKey key = true)
    (rules : Json) : (strip rules shapes).get? key = rules.get? key := by
  rw [get?_strip (isAnnotationKey_of_vendor hkey), h.vendor hkey]
  have hopen (child : Json) : strip child [] = child := strip_open rfl child
  simp only [hopen, Option.map_id']

/-! ### Walks over stripped rules -/

lemma isObject_strip (v : Json) (shapes : List RuleShape) :
    isObject (strip v shapes) = isObject v := by
  cases v with
  | object members =>
    obtain ⟨members', hstrip⟩ := strip_object members shapes
    rw [hstrip]
    rfl
  | _ => simp only [strip]

mutual

/-- The walk over the keys passes annotations by. -/
theorem walkKeys_strip : ∀ (v : Json) (shapes : List RuleShape) (path : String) (top : Bool),
    walkKeys (strip v shapes) shapes path top = walkKeys v shapes path top
  | v, shapes, path, top => by
    by_cases hopen : closedKeys shapes = []
    · rw [strip_open hopen]
    · cases v with
      | object members => rw [strip_closed hopen, walkKeys, walkKeys, walkMembers_strip]
      | _ => simp only [strip]

theorem walkMembers_strip : ∀ (members : List (String × Json))
    (closed : List (List (String × RuleShape))) (path : String) (top : Bool),
    walkMembers (stripMembers members closed) closed path top
      = walkMembers members closed path top
  | [], _, _, _ => by simp only [stripMembers]
  | (key, v) :: members, closed, path, top => by
    rw [stripMembers]
    split_ifs with hkey
    · rw [walkMembers_strip, walkMembers, if_pos hkey]
    · rw [walkMembers, walkMembers, if_neg hkey, if_neg hkey, isObject_strip, walkKeys_strip,
        walkMembers_strip]

end

mutual

/-- The walk over the shapes looks at no annotation. -/
theorem walkRuleShapes_strip : ∀ (v : Json) (shapes : List RuleShape), Schematic shapes →
    ∀ (path : String) (enums : List String),
    walkRuleShapes (strip v shapes) shapes path enums = walkRuleShapes v shapes path enums
  | v, shapes, h, path, enums => by
    by_cases hopen : closedKeys shapes = []
    · rw [strip_open hopen]
    · cases v with
      | object members =>
        rw [strip_closed hopen, walkRuleShapes, walkRuleShapes,
          walkMemberShapes_strip members shapes h]
      | _ => simp only [strip]

theorem walkMemberShapes_strip : ∀ (members : List (String × Json)) (shapes : List RuleShape),
    Schematic shapes → ∀ (path : String) (enums : List String),
    walkMemberShapes (stripMembers members (closedKeys shapes)) (closedKeys shapes) path enums
      = walkMemberShapes members (closedKeys shapes) path enums
  | [], _, _, _, _ => by simp only [stripMembers]
  | (key, v) :: members, shapes, h, path, enums => by
    rw [stripMembers]
    split_ifs with hkey
    · rw [walkMemberShapes_strip members shapes h, walkMemberShapes, h.annotation hkey,
        if_pos List.isEmpty_nil]
    · rw [walkMemberShapes, walkMemberShapes, walkRuleShapes_strip v _ (h.child key),
        walkMemberShapes_strip members shapes h]

end

/-! ### Walks over equal rules -/

section Same

variable {t : FloatText}

lemma isObject_same {v w : Json} (h : t.same v w = true) : isObject v = isObject w := by
  rcases same_cases h with rfl | ⟨_, _, rfl, rfl, _⟩ | ⟨_, _, rfl, rfl, _⟩ | ⟨_, _, rfl, rfl, _⟩
  · rfl
  · rfl
  · rfl
  · rfl

lemma sameMembers_cons {k l : String} {v w : Json} {ms ns : List (String × Json)}
    (h : t.sameMembers ((k, v) :: ms) ((l, w) :: ns) = true) :
    k = l ∧ t.same v w = true ∧ t.sameMembers ms ns = true := by
  rw [sameMembers, Bool.and_eq_true, Bool.and_eq_true, beq_iff_eq] at h
  exact ⟨h.1.1, h.1.2, h.2⟩

mutual

theorem walkKeys_same : ∀ (v w : Json), t.same v w = true →
    ∀ (shapes : List RuleShape) (path : String) (top : Bool),
    walkKeys v shapes path top = walkKeys w shapes path top
  | .object ms, .object ns, h, shapes, path, top => by
    rw [walkKeys, walkKeys, walkMembers_same ms ns h]
  | .null, .null, _, _, _, _ => rfl
  | .bool _, .bool _, _, _, _, _ => rfl
  | .number _, .number _, _, _, _, _ => rfl
  | .string _, .string _, _, _, _, _ => rfl
  | .array _, .array _, _, _, _, _ => rfl

theorem walkMembers_same : ∀ (ms ns : List (String × Json)), t.sameMembers ms ns = true →
    ∀ (closed : List (List (String × RuleShape))) (path : String) (top : Bool),
    walkMembers ms closed path top = walkMembers ns closed path top
  | [], [], _, _, _, _ => rfl
  | (k, v) :: ms, (l, w) :: ns, h, closed, path, top => by
    obtain ⟨rfl, hv, hms⟩ := sameMembers_cons h
    rw [walkMembers, walkMembers, isObject_same hv, walkKeys_same v w hv,
      walkMembers_same ms ns hms]

end

mutual

theorem walkRuleShapes_same : ∀ (v w : Json), t.same v w = true →
    ∀ (shapes : List RuleShape) (path : String) (enums : List String),
    walkRuleShapes v shapes path enums = walkRuleShapes w shapes path enums
  | .object ms, .object ns, h, shapes, path, enums => by
    rw [walkRuleShapes, walkRuleShapes, walkMemberShapes_same ms ns h]
  | .null, .null, _, _, _, _ => rfl
  | .bool _, .bool _, _, _, _, _ => rfl
  | .number _, .number _, _, _, _, _ => rfl
  | .string _, .string _, _, _, _, _ => rfl
  | .array _, .array _, _, _, _, _ => rfl

theorem walkMemberShapes_same : ∀ (ms ns : List (String × Json)), t.sameMembers ms ns = true →
    ∀ (closed : List (List (String × RuleShape))) (path : String) (enums : List String),
    walkMemberShapes ms closed path enums = walkMemberShapes ns closed path enums
  | [], [], _, _, _, _ => rfl
  | (k, v) :: ms, (l, w) :: ns, h, closed, path, enums => by
    obtain ⟨rfl, hv, hms⟩ := sameMembers_cons h
    rw [walkMemberShapes, walkMemberShapes, walkRuleShapes_same v w hv,
      walkMemberShapes_same ms ns hms]

end

/-- Equal objects have equal members under each key. -/
lemma get?_same {v w : Json} (h : t.same v w = true) (key : String) :
    (v.get? key = none ∧ w.get? key = none) ∨
      ∃ x y, v.get? key = some x ∧ w.get? key = some y ∧ t.same x y = true := by
  match v, w, h with
  | .object ms, .object ns, h => exact (forall₂_of_sameMembers h).lookup key
  | .null, .null, _ => exact .inl ⟨rfl, rfl⟩
  | .bool _, .bool _, _ => exact .inl ⟨rfl, rfl⟩
  | .number _, .number _, _ => exact .inl ⟨rfl, rfl⟩
  | .string _, .string _, _ => exact .inl ⟨rfl, rfl⟩
  | .array _, .array _, _ => exact .inl ⟨rfl, rfl⟩

lemma vendorExtensionKeys_same {v w : Json} (h : t.same v w = true) :
    vendorExtensionKeys v = vendorExtensionKeys w := by
  have hkeys : ∀ {ms ns : List (String × Json)}, t.SameMembers ms ns →
      ms.map (·.1) = ns.map (·.1) := by
    intro ms ns hms
    induction hms with
    | nil => rfl
    | cons hm _ ih => rw [List.map_cons, List.map_cons, hm.1, ih]
  match v, w, h with
  | .object ms, .object ns, h =>
    rw [vendorExtensionKeys, vendorExtensionKeys, hkeys (forall₂_of_sameMembers h)]
  | .null, .null, _ => rfl
  | .bool _, .bool _, _ => rfl
  | .number _, .number _, _ => rfl
  | .string _, .string _, _ => rfl
  | .array _, .array _, _ => rfl

end Same

lemma vendorExtensionKeys_strip (v : Json) (shapes : List RuleShape) :
    vendorExtensionKeys (strip v shapes) = vendorExtensionKeys v := by
  by_cases hopen : closedKeys shapes = []
  · rw [strip_open hopen]
  · cases v with
    | object members =>
      rw [strip_closed hopen]
      simp only [vendorExtensionKeys]
      induction members with
      | nil => simp only [stripMembers]
      | cons m members ih =>
        obtain ⟨key, v⟩ := m
        rw [stripMembers, List.map_cons]
        split_ifs with hkey
        · have hvendor : ¬ isVendorExtensionKey key = true := fun hvendor => by
            rw [isAnnotationKey_of_vendor hvendor] at hkey
            cases hkey
          rw [ih, List.filter_cons, if_neg hvendor]
        · rw [List.map_cons, List.filter_cons, List.filter_cons, ih]
    | _ => simp only [strip]

/-! ### Present values -/

/-- The shapes of the position a path leads to. -/
def shapesAt (shapes : List RuleShape) : List String → List RuleShape
  | [] => shapes
  | key :: path => shapesAt (childShapes (closedKeys shapes) key) path

lemma presentAt_strip {path : List String} (hpath : ∀ key ∈ path, isAnnotationKey key = false)
    (v : Json) (shapes : List RuleShape) (walked : List String) :
    presentAt (strip v shapes) walked path
      = (presentAt v walked path).map
          (Option.map fun child => strip child (shapesAt shapes path)) := by
  induction path generalizing v shapes walked with
  | nil => rfl
  | cons key path ih =>
    rw [List.forall_mem_cons] at hpath
    cases v with
    | object members =>
      obtain ⟨members', hstrip⟩ := strip_object members shapes
      have hlookup := get?_strip hpath.1 (.object members) shapes
      rw [hstrip] at hlookup ⊢
      simp only [Json.get?] at hlookup
      rw [presentAt_object, presentAt_object, hlookup]
      cases members.lookup key with
      | none => rfl
      | some child => exact ih hpath.2 child _ _
    | _ => simp only [strip, presentAt, Except.map]

lemma Weighable.presentObject_strip (h : Weighable shapes) (v : Json) :
    presentObject (strip v shapes) ["voting", "weights"]
      = presentObject v ["voting", "weights"] := by
  have hopen :
      (Option.map fun child => strip child (shapesAt shapes ["voting", "weights"])) = id := by
    funext child
    simp only [shapesAt, strip_open h.weights, Option.map_id', id]
  unfold presentObject
  rw [presentAt_strip (by decide), hopen]
  cases presentAt v [] ["voting", "weights"] <;> rfl

lemma presentNumber_strip (t : FloatText) (v : Json) (shapes : List RuleShape) :
    presentNumber t (strip v shapes) ["threshold", "value"]
      = presentNumber t v ["threshold", "value"] := by
  have hkind (child : Json) (shapes : List RuleShape) :
      jsonKind (strip child shapes) = jsonKind child := by
    cases child with
    | object members =>
      obtain ⟨members', hstrip⟩ := strip_object members shapes
      rw [hstrip]
      rfl
    | _ => simp only [strip]
  unfold presentNumber
  rw [presentAt_strip (by decide)]
  cases presentAt v [] ["threshold", "value"] with
  | error e => rfl
  | ok found =>
    cases found with
    | none => rfl
    | some child =>
      simp only [Except.map, Option.map_some]
      rw [(Reads.double _).blind child, hkind]

section Same

variable {t : FloatText} {v w : Json} (h : t.same v w = true)
include h

/-- A path leads to equal values in equal rules. -/
lemma presentAt_same (walked path : List String) :
    Related (fun x y => (x = none ∧ y = none) ∨
        ∃ a b, x = some a ∧ y = some b ∧ t.same a b = true)
      (presentAt v walked path) (presentAt w walked path) := by
  induction path generalizing v w walked with
  | nil => exact .ok (.inr ⟨v, w, rfl, rfl, h⟩)
  | cons key path ih =>
    match v, w, h with
    | .object ms, .object ns, h =>
      rw [presentAt_object, presentAt_object]
      rcases (forall₂_of_sameMembers h).lookup key with ⟨hm, hn⟩ | ⟨a, b, hm, hn, hab⟩
      · rw [hm, hn]
        exact .ok (.inl ⟨rfl, rfl⟩)
      · rw [hm, hn]
        exact ih hab _
    | .null, .null, _ => exact .error _ _
    | .bool _, .bool _, _ => exact .error _ _
    | .number _, .number _, _ => exact .error _ _
    | .string _, .string _, _ => exact .error _ _
    | .array _, .array _, _ => exact .error _ _

lemma presentObject_same (path : List String) :
    Related (fun x y => x = some [] ↔ y = some [])
      (presentObject v path) (presentObject w path) := by
  unfold presentObject
  have hrelated := presentAt_same h [] path
  generalize presentAt v [] path = x, presentAt w [] path = y at hrelated ⊢
  cases hrelated with
  | error e f => exact .error _ _
  | ok hfound =>
    rcases hfound with ⟨rfl, rfl⟩ | ⟨a, b, rfl, rfl, hab⟩
    · exact .ok Iff.rfl
    · match a, b, hab with
      | .object ms, .object ns, hab =>
        refine .ok ?_
        cases forall₂_of_sameMembers hab <;> simp
      | .null, .null, _ => exact .error _ _
      | .bool _, .bool _, _ => exact .error _ _
      | .number _, .number _, _ => exact .error _ _
      | .string _, .string _, _ => exact .error _ _
      | .array _, .array _, _ => exact .error _ _

lemma presentNumber_same (path : List String) :
    Related (fun x y => x.map Double.unsign = y.map Double.unsign)
      (presentNumber t v path) (presentNumber t w path) := by
  unfold presentNumber
  have hrelated := presentAt_same h [] path
  generalize presentAt v [] path = x, presentAt w [] path = y at hrelated ⊢
  cases hrelated with
  | error e f => exact .error _ _
  | ok hfound =>
    rcases hfound with ⟨rfl, rfl⟩ | ⟨a, b, rfl, rfl, hab⟩
    · exact .ok rfl
    · have hread := respects_double a b hab
      dsimp only
      obtain ⟨ha, hb⟩ | ⟨x, y, ha, hb, hxy⟩ := cases_of_map_eq hread
      · rw [ha, hb]
        exact .error _ _
      · rw [ha, hb]
        exact .ok (congrArg some hxy)

end Same

/-! ### Domains -/

section Domains

variable {render : Rendering} (weights : ExtTreeMap String Float)

/-- The keys with a weight that is not positive. -/
lemma nonPositive_unsignMap :
    (((unsignMap weights).toList.filter fun w => decide (w.2 ≤ 0) || w.2.isNaN).map (·.1))
      = (weights.toList.filter fun w => decide (w.2 ≤ 0) || w.2.isNaN).map (·.1) := by
  rw [unsignMap, ExtTreeMap.toList_map, List.filter_map, List.map_map]
  simp only [Function.comp_def, unsign_le, isNaN_unsign]

lemma isEmpty_unsignMap : (unsignMap weights).isEmpty = weights.isEmpty := by
  rw [← ExtTreeMap.isEmpty_toList, ← ExtTreeMap.isEmpty_toList, unsignMap,
    ExtTreeMap.toList_map, List.isEmpty_map]

section Decision

variable {rules rules' : DecisionPolicyRules} (h : rules.unsign = rules'.unsign)
include h

lemma algorithm_of_unsign : rules.voting.algorithm = rules'.voting.algorithm :=
  (Decision.sameVoting_of_unsign h).algorithm

lemma threshold_of_unsign :
    Double.unsign rules.voting.threshold = Double.unsign rules'.voting.threshold :=
  (Decision.sameVoting_of_unsign h).threshold

lemma weights_of_unsign : unsignMap rules.voting.weights = unsignMap rules'.voting.weights :=
  (congrArg (fun rules => rules.voting.weights) h :)

lemma validateDecisionVoting_agree :
    Agree (validateDecisionVoting render rules.voting)
      (validateDecisionVoting render rules'.voting) := by
  have hthreshold := threshold_of_unsign h
  have htype : rules.voting.quorum.quorumType = rules'.voting.quorum.quorumType :=
    (Decision.sameVoting_of_unsign h).quorumType
  have hvalue : Double.unsign rules.voting.quorum.value
      = Double.unsign rules'.voting.quorum.value :=
    (Decision.sameVoting_of_unsign h).quorumValue
  unfold validateDecisionVoting
  refine .andThen (agree_refuseIf ?_ _ _) (.andThen (agree_refuseIf ?_ _ _)
    (.andThen (agree_refuseIf ?_ _ _) (.andThen (agree_refuseIf ?_ _ _)
      (agree_refuseIf ?_ _ _))))
  · rw [algorithm_of_unsign h]
  · rw [← lt_unsign, ← unsign_le, hthreshold, lt_unsign, unsign_le]
  · rw [← nonPositive_unsignMap, weights_of_unsign h, nonPositive_unsignMap]
  · rw [htype]
  · rw [← unsign_lt, ← isNaN_unsign, hvalue, unsign_lt, isNaN_unsign]

/-- Decision rules that differ in the signs of zeros, out of equal raw rules. -/
lemma validateDecision_agree {raw raw' : Json}
    (hraw : Related (fun x y => x = some [] ↔ y = some [])
      (presentObject raw ["voting", "weights"]) (presentObject raw' ["voting", "weights"])) :
    Agree (validateDecision render raw rules) (validateDecision render raw' rules') := by
  have hthreshold := threshold_of_unsign h
  have hempty : rules.voting.weights.isEmpty = rules'.voting.weights.isEmpty := by
    rw [← isEmpty_unsignMap, weights_of_unsign h, isEmpty_unsignMap]
  unfold validateDecision
  dsimp only
  rw [algorithm_of_unsign h]
  refine .andThen (validateDecisionVoting_agree h) (.andThen (Except.agree_refuseSome ?_)
    (.andThen (agree_refuseIf ?_ _ _) (hraw.andThen fun x y hxy =>
      .andThen (agree_refuseIf hxy _ _) (.andThen (agree_refuseIf ?_ _ _)
        (agree_refuseIf ?_ _ _)))))
  · rw [Option.map_eq_none_iff, Option.map_eq_none_iff,
      Decision.decisionValueDomainError_eq_none h]
  · rw [hempty]
  · rw [← unsign_le, hthreshold, unsign_le]
  · rw [← unsign_lt, hthreshold, unsign_lt]

end Decision

lemma validateQuorum_agree {t : FloatText} {raw raw' : Json} {rules rules' : QuorumPolicyRules}
    (h : rules.unsign = rules'.unsign)
    (hraw : Related (fun x y => x.map Double.unsign = y.map Double.unsign)
      (presentNumber t raw ["threshold", "value"]) (presentNumber t raw' ["threshold", "value"])) :
    Agree (validateQuorum render t raw rules) (validateQuorum render t raw' rules') := by
  have hthreshold : rules.threshold.unsign = rules'.threshold.unsign :=
    (congrArg QuorumPolicyRules.threshold h :)
  have htype : rules.threshold.thresholdType = rules'.threshold.thresholdType :=
    (congrArg QuorumThreshold.thresholdType hthreshold :)
  have hvalue : Double.unsign rules.threshold.value = Double.unsign rules'.threshold.value :=
    (congrArg QuorumThreshold.value hthreshold :)
  unfold validateQuorum validateQuorumThreshold
  dsimp only
  rw [htype]
  refine .andThen (.andThen (agree_refuseIf Iff.rfl _ _) (.andThen
    (agree_refuseIf ?_ _ _) (agree_refuseIf ?_ _ _))) (hraw.andThen fun x y hxy =>
      agree_refuseIf ?_ _ _)
  · rw [← isWhole_unsign, hvalue, isWhole_unsign]
  · rw [← lt_unsign, hvalue, lt_unsign]
  · have hunsign (x : Option Float) :
        (∃ a ∈ x.map Double.unsign, ¬ 0 < a) ↔ ∃ a ∈ x, ¬ 0 < a := by
      cases x <;> simp
    rw [← hunsign, hxy, hunsign]

lemma sameDouble_unsign (x y : Float) : sameDouble (Double.unsign x) y = sameDouble x y := by
  rw [sameDouble, sameDouble, isFinite_unsign, unsign_beq]

/-- A profile is recognised whatever the signs of the zeros. -/
lemma sameDecisionRules_unsign (rules canonical : DecisionPolicyRules) :
    sameDecisionRules rules.unsign canonical = sameDecisionRules rules canonical := by
  have hkeys : (unsignMap rules.voting.weights).toList.map (·.1)
      = rules.voting.weights.toList.map (·.1) := by
    rw [unsignMap, ExtTreeMap.toList_map, List.map_map]
    rfl
  have hweights (l : List (String × Float)) :
      ((unsignMap rules.voting.weights).toList.zip l).all (fun p => sameDouble p.1.2 p.2.2)
        = (rules.voting.weights.toList.zip l).all fun p => sameDouble p.1.2 p.2.2 := by
    rw [unsignMap, ExtTreeMap.toList_map, List.zip_map_left, List.all_map]
    simp only [Function.comp_def, Prod.map, id, sameDouble_unsign]
  unfold sameDecisionRules
  simp only [DecisionPolicyRules.unsign, VotingRules.unsign, QuorumRules.unsign,
    EvaluationRules.unsign, sameDouble_unsign, hkeys, hweights]

end Domains

/-! ### Registration -/

/-- The vendor extensions of a registry accept a value exactly when they accept an equal one. -/
def Admission.RespectsEquality (a : Admission) : Prop :=
  ∀ (key : String) (validate : Json → Except String Unit), a.extensions[key]? = some validate →
    ∀ v w, a.floats.same v w = true → Agree (validate v) (validate w)

section Parsing

variable {ρ β : Type} {read : Json → Option ρ} {view : ρ → β} {explain : Json → String}
  {raw raw' : Json} (hread : (read raw').map view = (read raw).map view)
include hread

lemma parsed_agree (f : String → String) :
    Agree (((explained read explain raw).map fun _ => ()).mapError f)
      (((explained read explain raw').map fun _ => ()).mapError f) := by
  unfold explained
  obtain ⟨hraw', hraw⟩ | ⟨rules', rules, hraw', hraw, -⟩ := cases_of_map_eq hread
  · rw [hraw, hraw']
    exact ⟨nofun, nofun⟩
  · rw [hraw, hraw']
    exact .of_eq rfl

lemma whenParsed_agree {mode target : String} {validate validate' : ρ → Except String Unit}
    (hvalidate : ∀ rules rules', view rules = view rules' →
      Agree (validate rules) (validate' rules')) :
    Agree (Admission.whenParsed mode target (explained read explain raw) validate)
      (Admission.whenParsed mode target (explained read explain raw') validate') := by
  unfold Admission.whenParsed explained
  split_ifs
  · obtain ⟨hraw', hraw⟩ | ⟨rules', rules, hraw', hraw, hview⟩ := cases_of_map_eq hread
    · rw [hraw, hraw']
      exact .of_eq rfl
    · rw [hraw, hraw']
      exact hvalidate rules rules' hview.symm
  · exact .of_eq rfl

end Parsing

namespace PolicyDefinition.Alike

variable {a : Admission} {p q : PolicyDefinition} (h : p.Alike a.floats q)
include h

lemma same : a.floats.same (strip p.rules ((ruleShapeForMode p.mode).getD []))
    (strip q.rules ((ruleShapeForMode p.mode).getD [])) = true := h.rules

lemma isObject_eq : isObject p.rules = isObject q.rules := by
  rw [← isObject_strip p.rules, isObject_same h.same, isObject_strip]

lemma closedKeyViolation_eq :
    closedKeyViolation p.rules ((ruleShapeForMode p.mode).getD [])
      = closedKeyViolation q.rules ((ruleShapeForMode p.mode).getD []) := by
  rw [closedKeyViolation, closedKeyViolation, ← walkKeys_strip p.rules,
    walkKeys_same _ _ h.same, walkKeys_strip]

lemma vendorExtensionKeys_eq : vendorExtensionKeys p.rules = vendorExtensionKeys q.rules := by
  rw [← vendorExtensionKeys_strip p.rules, vendorExtensionKeys_same h.same,
    vendorExtensionKeys_strip]

lemma validateExtension_agree (ha : a.RespectsEquality) {key : String}
    (hkey : isVendorExtensionKey key = true) :
    Agree (a.validateExtension p.rules key) (a.validateExtension q.rules key) := by
  have hshapes := schematic_shapes p.mode
  unfold Admission.validateExtension
  cases hextension : a.extensions[key]? with
  | none => exact .of_eq rfl
  | some validate =>
    have hvalidate : Agree (validate ((p.rules.get? key).getD .null))
        (validate ((q.rules.get? key).getD .null)) := by
      rw [← hshapes.strip_vendor hkey p.rules, ← hshapes.strip_vendor hkey q.rules]
      rcases get?_same h.same key with ⟨hp, hq⟩ | ⟨v, w, hp, hq, hvw⟩
      · rw [hp, hq]
        exact .of_eq rfl
      · rw [hp, hq]
        exact ha key validate hextension v w hvw
    dsimp only
    generalize validate ((p.rules.get? key).getD .null) = x,
      validate ((q.rules.get? key).getD .null) = y at hvalidate ⊢
    cases x <;> cases y <;> simp_all [Agree]

/-- The keys, and the vendor extensions. -/
lemma validateRuleKeys_agree (ha : a.RespectsEquality) :
    Agree (a.validateRuleKeys p.mode p.rules) (a.validateRuleKeys q.mode q.rules) := by
  have hkeys := h.closedKeyViolation_eq
  rw [h.mode]
  unfold Admission.validateRuleKeys
  cases hshapes : ruleShapeForMode p.mode with
  | none => exact .of_eq rfl
  | some shapes =>
    rw [hshapes, Option.getD_some] at hkeys
    dsimp only
    rw [hkeys, h.vendorExtensionKeys_eq]
    cases closedKeyViolation q.rules shapes with
    | some violation => exact .of_eq rfl
    | none =>
      refine Except.agree_forM fun key hkey => h.validateExtension_agree ha ?_
      cases hq : q.rules with
      | object members =>
        rw [hq] at hkey
        exact (List.mem_filter.mp hkey).2
      | _ => simp [hq, vendorExtensionKeys] at hkey

lemma ruleShapeViolation_eq :
    ruleShapeViolation p.mode p.rules = ruleShapeViolation q.mode q.rules := by
  have hsame := h.same
  have hschematic := schematic_shapes p.mode
  rw [h.mode]
  unfold ruleShapeViolation
  cases hshapes : ruleShapeForMode p.mode with
  | none => rfl
  | some shapes =>
    rw [hshapes, Option.getD_some] at hsame hschematic
    dsimp only
    rw [← walkRuleShapes_strip p.rules shapes hschematic, walkRuleShapes_same _ _ hsame,
      walkRuleShapes_strip q.rules shapes hschematic]

/-- The canonical profiles have no vendor extensions. -/
lemma resolvesToSameRules_eq {canonical : PolicyDefinition}
    (hcanonical : Admission.extensionValues canonical.rules = []) :
    a.resolvesToSameRules p canonical = a.resolvesToSameRules q canonical := by
  have hextensions (rules : Json) :
      decide (Admission.extensionValues rules = Admission.extensionValues canonical.rules)
        = decide (vendorExtensionKeys rules = []) := by
    rw [hcanonical, decide_eq_decide, Admission.extensionValues, List.map_eq_nil_iff]
  unfold Admission.resolvesToSameRules
  rw [h.mode, h.schemaVersion, hextensions, hextensions, h.vendorExtensionKeys_eq]
  congr 1
  obtain ⟨hq, hp⟩ | ⟨rules', rules, hq, hp, hview⟩ := cases_of_map_eq h.decision
  · rw [hp, hq]
  · rw [hp, hq]
    cases readDecisionPolicyRules a.floats canonical.rules with
    | none => rfl
    | some parsed =>
      dsimp only
      rw [← sameDecisionRules_unsign rules, ← hview, sameDecisionRules_unsign]

lemma validateReservedNamespace_agree (hid : q.policyId = p.policyId) :
    Agree (a.validateReservedNamespace p) (a.validateReservedNamespace q) := by
  have hcanonical : ∀ canonical ∈ [stdMajorityPolicy, stdSupermajorityPolicy, stdUnanimousPolicy],
      Admission.extensionValues canonical.rules = [] := by decide
  unfold Admission.validateReservedNamespace
  rw [hid]
  split_ifs
  · exact .of_eq rfl
  · cases hfound : canonicalStdPolicy p.policyId with
    | none => exact .of_eq rfl
    | some canonical =>
      dsimp only
      rw [h.resolvesToSameRules_eq (hcanonical canonical (List.mem_of_find?_eq_some hfound))]
      exact .of_eq rfl

/-- The typed parse against one mode. -/
lemma parsesForMode_agree (mode : String) :
    Agree (a.parsesForMode mode p.rules) (a.parsesForMode mode q.rules) := by
  unfold Admission.parsesForMode
  split_ifs
  · exact parsed_agree h.decision _
  · exact parsed_agree (congrArg (Option.map id) h.proposal) _
  · exact parsed_agree (congrArg (Option.map id) h.task) _
  · exact parsed_agree (congrArg (Option.map id) h.handoff) _
  · exact parsed_agree h.quorum _
  · exact .of_eq rfl

lemma validateRulesForMode_agree :
    Agree (a.validateRulesForMode p.mode p.rules) (a.validateRulesForMode q.mode q.rules) := by
  rw [h.mode]
  unfold Admission.validateRulesForMode
  split_ifs
  · exact Except.agree_forM fun mode _ => h.parsesForMode_agree mode
  · exact h.parsesForMode_agree _

lemma presentObject_related :
    Related (fun x y => x = some [] ↔ y = some [])
      (presentObject p.rules ["voting", "weights"])
      (presentObject q.rules ["voting", "weights"]) := by
  rw [← (weighable_shapes p.mode).presentObject_strip p.rules,
    ← (weighable_shapes p.mode).presentObject_strip q.rules]
  exact presentObject_same h.same _

lemma presentNumber_related :
    Related (fun x y => x.map Double.unsign = y.map Double.unsign)
      (presentNumber a.floats p.rules ["threshold", "value"])
      (presentNumber a.floats q.rules ["threshold", "value"]) := by
  rw [← presentNumber_strip a.floats p.rules, ← presentNumber_strip a.floats q.rules]
  exact presentNumber_same h.same _

/-- The domains of the parsed values. -/
lemma validateConditionalConstraints_agree :
    Agree (a.validateConditionalConstraints p.mode p.rules)
      (a.validateConditionalConstraints q.mode q.rules) := by
  rw [h.mode]
  unfold Admission.validateConditionalConstraints
  refine .andThen ?_ (.andThen ?_ (.andThen ?_ (.andThen ?_ ?_)))
  · exact whenParsed_agree h.decision fun rules rules' hview =>
      validateDecision_agree hview h.presentObject_related
  · exact whenParsed_agree h.quorum fun rules rules' hview =>
      validateQuorum_agree hview h.presentNumber_related
  · exact whenParsed_agree (congrArg (Option.map id) h.proposal) fun rules rules' hview =>
      .of_eq (congrArg validateAcceptance hview)
  · refine whenParsed_agree h.quorum fun rules rules' hview => .of_eq ?_
    have habstention : rules.abstention = rules'.abstention :=
      (congrArg QuorumPolicyRules.abstention hview :)
    rw [validateAbstention, validateAbstention, habstention]
  · refine .of_eq ?_
    rw [h.read_eq (commitmentSection_reads _)]

/-- All checks of the rules. -/
lemma validateRules_agree (ha : a.RespectsEquality) (hid : q.policyId = p.policyId)
    (reservedNamespace : Bool) :
    Agree (a.validateRules reservedNamespace p) (a.validateRules reservedNamespace q) := by
  unfold Admission.validateRules
  refine .andThen (h.validateRuleKeys_agree ha) (.andThen ?_ (.andThen ?_
    (.andThen h.validateRulesForMode_agree h.validateConditionalConstraints_agree)))
  · rw [h.ruleShapeViolation_eq]
    exact .of_eq rfl
  · split_ifs
    · exact h.validateReservedNamespace_agree hid
    · exact .of_eq rfl

/-- A registration under a free id succeeds for both or for neither. -/
lemma register_iff (ha : a.RespectsEquality) (hid : q.policyId = p.policyId)
    (entries : ExtTreeMap String PolicyDefinition) :
    (∃ registry, (a.registry entries).register p = .ok registry)
      ↔ ∃ registry, (a.registry entries).register q = .ok registry := by
  have hvalid : Agree ((a.registry entries).validateDefinition p)
      ((a.registry entries).validateDefinition q) := by
    unfold PolicyRegistry.validateDefinition PolicyRegistry.validateContent
    rw [hid, h.schemaVersion, h.isObject_eq]
    split_ifs
    any_goals exact .of_eq rfl
    exact h.validateRules_agree ha hid true
  have hregister (definition : PolicyDefinition) :
      (∃ registry, (a.registry entries).register definition = .ok registry)
        ↔ (a.registry entries).validateDefinition definition = .ok ()
          ∧ entries.contains definition.policyId = false := by
    unfold PolicyRegistry.register
    change _ ↔ _ ∧ (a.registry entries).entries.contains definition.policyId = false
    cases (a.registry entries).validateDefinition definition with
    | error e => simp
    | ok u => cases (a.registry entries).entries.contains definition.policyId <;> simp
  rw [hregister, hregister, hid]
  exact and_congr hvalid Iff.rfl

end PolicyDefinition.Alike

/-- **Annotations carry no governance meaning.**  Under any mode, definitions of one id and version
whose rules are equal up to annotations are registered together, and the evaluator allows the same
commitments under both.  Stripping annotations is idempotent, and keeps `voting.weights` and every
vendor extension as they are. -/
theorem annotations_carry_no_governance (a : Admission) (ha : a.RespectsEquality) (mode : String) :
    (∀ p q : PolicyDefinition, p.mode = mode → q.mode = mode → q.policyId = p.policyId →
        q.schemaVersion = p.schemaVersion → rulesEqual a.floats mode p.rules q.rules = true →
      (∀ entries, (∃ registry, (a.registry entries).register p = .ok registry)
          ↔ ∃ registry, (a.registry entries).register q = .ok registry)
        ∧ ∀ render participants outcomePositive commitment,
          (defaultPolicyEvaluator a.schemas render
              ⟨p, participants, outcomePositive, commitment⟩).Allows
            ↔ (defaultPolicyEvaluator a.schemas render
              ⟨q, participants, outcomePositive, commitment⟩).Allows)
      ∧ ∀ rules, let shapes := (ruleShapeForMode mode).getD []
        stripAnnotations (stripAnnotations rules shapes) shapes = stripAnnotations rules shapes
        ∧ ((stripAnnotations rules shapes).get? "voting").bind (·.get? "weights")
          = (rules.get? "voting").bind (·.get? "weights")
        ∧ ∀ key, isVendorExtensionKey key = true →
          (stripAnnotations rules shapes).get? key = rules.get? key := by
  refine ⟨fun p q hp hq hid hversion hrules => ?_, fun rules => ?_⟩
  · subst hp
    have halike : p.Alike a.floats q := ⟨hq, hversion, hrules⟩
    exact ⟨halike.register_iff ha hid, fun _ _ _ _ => halike.allows_iff⟩
  · exact ⟨strip_strip rules _, (weighable_shapes mode).strip_weights rules,
      fun key hkey => (schematic_shapes mode).strip_vendor hkey rules⟩

/-! ### A policy with a note -/

/-- A vendor extension that takes any object. -/
def takeObject (v : Json) : Except String Unit :=
  Except.refuseIf (isObject v = false) "not an object"

/-- Admission with one vendor extension. -/
def objectExtension : Admission :=
  { Admission.plain with
    extensions := (∅ : ExtTreeMap String (Json → Except String Unit)).insert "x-com.example"
      takeObject }

lemma objectExtension_respects : objectExtension.RespectsEquality := by
  intro key validate hvalidate v w hvw
  rw [objectExtension, ExtTreeMap.getElem?_insert] at hvalidate
  split_ifs at hvalidate
  · cases hvalidate
    exact agree_refuseIf (by rw [isObject_same hvw]) _ _
  · simp at hvalidate

/-- A policy without annotations. -/
def unnotedPolicy : PolicyDefinition where
  policyId := "policy.noted"
  mode := "*"
  description := ""
  rules := .object [("voting", .object [("algorithm", .string "weighted"),
      ("quorum", .object [("value", .number (.float "0.0"))]),
      ("weights", .object [("_a", .number (.posInt 2))])]),
    ("x-com.example", .object [("_b", .null)])]
  schemaVersion := 1

/-- The same with notes, and with the other zero. -/
def notedPolicy : PolicyDefinition :=
  { unnotedPolicy with
    description := "noted"
    rules := .object [("$note", .null),
      ("voting", .object [("_note", .string "n"), ("algorithm", .string "weighted"),
        ("quorum", .object [("value", .number (.float "-0.0"))]),
        ("weights", .object [("_a", .number (.posInt 2))])]),
      ("x-com.example", .object [("_b", .null)])] }

lemma unnotedPolicy_registered :
    ∃ registry, (objectExtension.registry ∅).register unnotedPolicy = .ok registry :=
  Except.exists_eq_ok_of_toBool (by decide +kernel)

theorem annotations_carry_no_governance_noted :
    rulesEqual exactDecimal "*" unnotedPolicy.rules notedPolicy.rules = true
      ∧ (∃ registry, (objectExtension.registry ∅).register unnotedPolicy = .ok registry)
      ∧ ∃ registry, (objectExtension.registry ∅).register notedPolicy = .ok registry := by
  have hequal : rulesEqual exactDecimal "*" unnotedPolicy.rules notedPolicy.rules = true := by
    decide +kernel
  have hboth := (annotations_carry_no_governance objectExtension objectExtension_respects "*").1
    unnotedPolicy notedPolicy rfl rfl rfl rfl hequal
  exact ⟨hequal, unnotedPolicy_registered, (hboth.1 ∅).mp unnotedPolicy_registered⟩

end MacpRuntime
