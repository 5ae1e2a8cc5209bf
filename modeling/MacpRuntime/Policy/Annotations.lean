import MacpRuntime.Policy.Keys
import MacpRuntime.Policy.Unsigned

/-!
Annotations have no effect: what is read of a policy's rules is what is read of them without their
annotations, up to the signs of zeros (`Reads`), so that the evaluator allows the same under two
policies whose rules are equal up to annotations (`PolicyDefinition.Alike`, `Alike.allows_iff`).
-/

namespace MacpRuntime

open Serde

/-! ### Blind readers -/

/-- The reader does not see the annotations that `strip` takes away under the given shapes. -/
def Blind {α : Type} (read : Json → Option α) (shapes : List RuleShape) : Prop :=
  ∀ v, read (strip v shapes) = read v

lemma strip_object (members : List (String × Json)) (shapes : List RuleShape) :
    ∃ members', strip (.object members) shapes = .object members' := by
  unfold strip
  split_ifs
  · exact ⟨members, rfl⟩
  · exact ⟨_, rfl⟩

/-- A reader that takes no object is blind. -/
lemma blind_of_object {α : Type} {read : Json → Option α}
    (h : ∀ members, read (.object members) = none) (shapes : List RuleShape) :
    Blind read shapes := by
  intro v
  cases v with
  | object members =>
    obtain ⟨members', hstrip⟩ := strip_object members shapes
    rw [hstrip, h, h]
  | _ => simp only [strip]

/-- Nothing is stripped where no candidate is a closed object. -/
lemma blind_of_open {α : Type} {read : Json → Option α} {shapes : List RuleShape}
    (h : closedKeys shapes = []) : Blind read shapes := by
  intro v
  cases v with
  | object members => rw [strip, h, if_pos List.isEmpty_nil]
  | _ => simp only [strip]

lemma lookup_stripMembers {key : String} (h : isAnnotationKey key = false)
    (members : List (String × Json)) (closed : List (List (String × RuleShape))) :
    (stripMembers members closed).lookup key
      = (members.lookup key).map fun v => strip v (childShapes closed key) := by
  induction members with
  | nil => rfl
  | cons m ms ih =>
    obtain ⟨k, v⟩ := m
    rw [stripMembers, List.lookup_cons]
    by_cases hk : key = k
    · subst hk
      rw [if_neg (by simp [h]), List.lookup_cons_self, beq_self_eq_true]
      rfl
    · have hne : (key == k) = false := by simpa using hk
      rw [hne]
      split_ifs
      · exact ih
      · rw [List.lookup_cons, hne]
        exact ih

lemma fieldOr_strip {α : Type} {read : Json → Option α} {key : String}
    {closed : List (List (String × RuleShape))} (hkey : isAnnotationKey key = false)
    (h : Blind read (childShapes closed key)) (default : α) (members : List (String × Json)) :
    fieldOr read default key (stripMembers members closed) = fieldOr read default key members := by
  unfold fieldOr
  rw [lookup_stripMembers hkey]
  cases members.lookup key with
  | none => rfl
  | some v => exact h v

/-- A struct is blind when what it reads of its members is. -/
lemma blind_struct {α : Type} {fields : List String} {read : List (String × Json) → Option α}
    {shapes : List RuleShape}
    (h : ∀ members, read (stripMembers members (closedKeys shapes)) = read members) :
    Blind (fun v => (structMembers fields v).bind read) shapes := by
  intro v
  cases v with
  | object members =>
    unfold strip
    split_ifs
    · rfl
    · exact h members
  | _ => simp only [strip]

/-! ### Readers of equal rules -/

section Reads

variable {α β γ σ κ : Type} {t : FloatText} {shapes : List RuleShape}
  {closed : List (List (String × RuleShape))}

/-- The reader sees no annotations and, as far as the view tells, reads the same of equal values. -/
structure Reads (t : FloatText) (read : Json → Option α) (view : α → β) (shapes : List RuleShape) :
    Prop where
  blind : Blind read shapes
  respects : t.Respects read view

/-- The same of the members of a struct, for constructors that the view does not tell apart. -/
structure ReadsFields (t : FloatText) (fields : Fields σ κ) (mk mk' : κ) (view : σ → β)
    (closed : List (List (String × RuleShape))) : Prop where
  blind : ∀ members, fields.read mk (stripMembers members closed) = fields.read mk members
  respects : ∀ ms ns, t.SameMembers ms ns →
    (fields.read mk ms).map view = (fields.read mk' ns).map view

namespace ReadsFields

variable {read : Json → Option α} {key : String} {default : α} {rest : Fields σ κ} {mk mk' : α → κ}
  {view : σ → β}

lemma nil {a b : σ} (h : view a = view b) : ReadsFields t .nil a b view closed :=
  ⟨fun _ => rfl, fun _ _ _ => congrArg some h⟩

lemma field {seen : α → γ} (h : Reads t read seen (childShapes closed key))
    (hrest : ∀ a b, seen a = seen b → ReadsFields t rest (mk a) (mk' b) view closed)
    (hkey : isAnnotationKey key = false := by decide) :
    ReadsFields t (.field key read default rest) mk mk' view closed where
  blind members := by
    rw [Fields.field]
    dsimp only
    rw [fieldOr_strip hkey h.blind]
    congr 1
    funext a
    exact (hrest a a rfl).blind members
  respects ms ns hms := FloatText.map_bind_congr
    (FloatText.map_fieldOr_congr h.respects default key hms) fun a b hab =>
      (hrest a b hab).respects ms ns hms

/-- A field of which the view sees everything. -/
lemma exact (h : Reads t read id (childShapes closed key))
    (hrest : ∀ a, ReadsFields t rest (mk a) (mk' a) view closed)
    (hkey : isAnnotationKey key = false := by decide) :
    ReadsFields t (.field key read default rest) mk mk' view closed :=
  field h (fun a b hab => by obtain rfl : a = b := hab; exact hrest a) hkey

end ReadsFields

namespace Reads

variable (shapes)

lemma struct {shapes : List RuleShape} {fields : Fields σ κ} {mk : κ} {view : σ → β}
    (h : ReadsFields t fields mk mk view (closedKeys shapes)) :
    Reads t (Serde.struct mk fields) view shapes :=
  ⟨blind_struct h.blind, FloatText.respects_struct h.respects⟩

lemma text : Reads t Serde.text id shapes :=
  ⟨blind_of_object (fun _ => rfl) _, FloatText.respects_text⟩

lemma texts : Reads t Serde.texts id shapes :=
  ⟨blind_of_object (fun _ => rfl) _, FloatText.respects_texts⟩

lemma flag : Reads t Serde.flag id shapes :=
  ⟨blind_of_object (fun _ => rfl) _, FloatText.respects_flag⟩

lemma natural (bound : ℕ) : Reads t (Serde.natural bound) id shapes :=
  ⟨blind_of_object (fun _ => rfl) _, FloatText.respects_natural bound⟩

lemma double : Reads t t.fromJson Double.unsign shapes :=
  ⟨blind_of_object (fun _ => rfl) _, FloatText.respects_double⟩

end Reads

/-! ### The rule sets -/

variable (shapes)

lemma readSection_reads {read : Json → Option α} {key : String} (default : α)
    (h : ∀ shapes, Reads t read id shapes) (hkey : isAnnotationKey key = false := by decide) :
    Reads t (readSection key read default) id shapes :=
  .struct <| .exact (h _) (fun _ => .nil rfl) hkey

lemma readCommitmentRules_reads : Reads t readCommitmentRules id shapes :=
  .struct <| .exact (.text _) fun _ => .exact (.texts _) fun _ => .exact (.flag _) fun _ =>
    .exact (.flag _) fun _ => .nil rfl

/-- The commitment section as the modes read it, out of rules they do not parse. -/
lemma commitmentSection_reads :
    Reads t (fun v => (v.get? "commitment").bind readCommitmentRules) id shapes where
  blind v := by
    cases v with
    | object members =>
      unfold strip
      split_ifs
      · rfl
      · simp only [Json.get?]
        rw [lookup_stripMembers (by decide)]
        cases members.lookup "commitment" with
        | none => rfl
        | some v => exact (@readCommitmentRules_reads t _).blind v
    | _ => simp only [strip]
  respects v w hsame := by
    rcases FloatText.same_cases hsame with rfl | ⟨a, b, rfl, rfl, _⟩ | ⟨vs, ws, rfl, rfl, _⟩ |
      ⟨ms, ns, rfl, rfl, hms⟩
    · rfl
    · rfl
    · rfl
    · simp only [Json.get?]
      rcases hms.lookup "commitment" with ⟨hm, hn⟩ | ⟨v, w, hm, hn, hvw⟩
      · rw [hm, hn]
      · rw [hm, hn]
        exact (readCommitmentRules_reads shapes).respects v w hvw

lemma readQuorumRules_reads : Reads t (readQuorumRules t) QuorumRules.unsign shapes :=
  .struct <| .exact (.text _) fun _ => .field (.double _) fun _ _ hvalue =>
    .nil (congrArg (QuorumRules.mk _) hvalue)

lemma readEvaluationRules_reads : Reads t (readEvaluationRules t) EvaluationRules.unsign shapes :=
  .struct <| .exact (.flag _) fun _ => .field (.double _) fun _ _ hminimum =>
    .nil (congrArg (EvaluationRules.mk _) hminimum)

lemma readQuorumThreshold_reads : Reads t (readQuorumThreshold t) QuorumThreshold.unsign shapes :=
  .struct <| .exact (.text _) fun _ => .field (.double _) fun _ _ hvalue =>
    .nil (congrArg (QuorumThreshold.mk _) hvalue)

lemma readAbstentionRules_reads : Reads t readAbstentionRules id shapes :=
  .struct <| .exact (.flag _) fun _ => .exact (.text _) fun _ => .nil rfl

/-- The two positions of the rules at which the members of an object are data, the weights and
the objection action, are closed objects in no schema. -/
structure Weighable : Prop where
  weights : closedKeys
    (childShapes (closedKeys (childShapes (closedKeys shapes) "voting")) "weights") = []
  action : closedKeys (childShapes
    (closedKeys (childShapes (closedKeys shapes) "objection_handling"))
      "critical_objection_action") = []

variable {shapes}

lemma Weighable.voting (h : Weighable shapes) :
    Reads t (readVotingRules t) VotingRules.unsign (childShapes (closedKeys shapes) "voting") :=
  .struct <| .exact (.text _) fun _ => .field (.double _) fun _ _ hthreshold =>
    .field (readQuorumRules_reads _) fun _ _ hquorum =>
      .field ⟨blind_of_open h.weights, FloatText.respects_doubles⟩ fun _ _ hweights =>
        .nil (by rw [VotingRules.unsign, VotingRules.unsign, hthreshold, hquorum, hweights])

lemma Weighable.objectionHandling (h : Weighable shapes) : Reads t readObjectionHandlingRules id
    (childShapes (closedKeys shapes) "objection_handling") :=
  .struct <| .exact (.flag _) fun _ => .exact (.natural _ _) fun _ =>
    .exact ⟨blind_of_open h.action, FloatText.respects_unitVariant _⟩ fun _ => .nil rfl

lemma Weighable.decision (h : Weighable shapes) :
    Reads t (readDecisionPolicyRules t) DecisionPolicyRules.unsign shapes :=
  .struct <| .field h.voting fun _ _ hvoting => .exact h.objectionHandling fun _ =>
    .field (readEvaluationRules_reads _) fun _ _ hevaluation =>
      .exact (readCommitmentRules_reads _) fun _ =>
        .nil (by rw [DecisionPolicyRules.unsign, DecisionPolicyRules.unsign, hvoting, hevaluation])

variable (shapes)

lemma readProposalPolicyRules_reads : Reads t readProposalPolicyRules id shapes :=
  .struct <| .exact (readSection_reads _ _ .text) fun _ =>
    .exact (readSection_reads _ _ fun _ => .natural _ _) fun _ =>
      .exact (readSection_reads _ _ .flag) fun _ =>
        .exact (readCommitmentRules_reads _) fun _ => .nil rfl

lemma readTaskPolicyRules_reads : Reads t readTaskPolicyRules id shapes :=
  .struct <| .exact (readSection_reads _ _ .flag) fun _ =>
    .exact (readSection_reads _ _ .flag) fun _ =>
      .exact (readCommitmentRules_reads _) fun _ => .nil rfl

lemma readHandoffPolicyRules_reads : Reads t readHandoffPolicyRules id shapes :=
  .struct <| .exact (readSection_reads _ _ fun _ => .natural _ _) fun _ =>
    .exact (readCommitmentRules_reads _) fun _ => .nil rfl

lemma readQuorumPolicyRules_reads :
    Reads t (readQuorumPolicyRules t) QuorumPolicyRules.unsign shapes :=
  .struct <| .field (readQuorumThreshold_reads _) fun _ _ hthreshold =>
    .exact (readAbstentionRules_reads _) fun _ => .exact (readCommitmentRules_reads _) fun _ =>
      .nil (by rw [QuorumPolicyRules.unsign, QuorumPolicyRules.unsign, hthreshold])

end Reads

/-- The shapes of a mode are those of all modes, of one, or none. -/
lemma ruleShapeForMode_cases {P : List RuleShape → Prop}
    (hall : P (standardsTrackRuleShapes.map (·.2))) (hnone : P [])
    (hone : ∀ e ∈ standardsTrackRuleShapes, P [e.2]) (mode : String) :
    P ((ruleShapeForMode mode).getD []) := by
  unfold ruleShapeForMode
  split_ifs
  · exact hall
  · cases hshape : standardsTrackRuleShapes.lookup mode with
    | none => exact hnone
    | some shape =>
      obtain ⟨before, after, hlist, _⟩ := List.lookup_eq_some_iff.mp hshape
      exact hone (mode, shape) (by simp [hlist])

/-- Whatever the mode of a policy, the shapes its rules are stripped by keep the data of maps. -/
lemma weighable_shapes (mode : String) : Weighable ((ruleShapeForMode mode).getD []) := by
  refine ruleShapeForMode_cases ⟨rfl, rfl⟩ ⟨rfl, rfl⟩ (fun e he => ?_) mode
  simp only [standardsTrackRuleShapes, List.mem_cons, List.not_mem_nil, or_false] at he
  rcases he with rfl | rfl | rfl | rfl | rfl <;> exact ⟨rfl, rfl⟩

/-! ### Policies that differ in annotations -/

namespace PolicyDefinition

/-- The same mode, the same version, and the same rules up to annotations. -/
structure Alike (t : FloatText) (p q : PolicyDefinition) : Prop where
  mode : q.mode = p.mode
  schemaVersion : q.schemaVersion = p.schemaVersion
  rules : rulesEqual t p.mode p.rules q.rules = true

namespace Alike

variable {t : FloatText} {p q : PolicyDefinition}

section

variable (h : Alike t p q)

include h

/-- What is read of both. -/
lemma map_read_eq {α β : Type} {read : Json → Option α} {view : α → β}
    (hread : Reads t read view ((ruleShapeForMode p.mode).getD [])) :
    (read q.rules).map view = (read p.rules).map view := by
  have hrules := hread.respects _ _ h.rules
  rw [stripAnnotations, stripAnnotations, hread.blind, hread.blind] at hrules
  exact hrules.symm

lemma read_eq {α : Type} {read : Json → Option α}
    (hread : Reads t read id ((ruleShapeForMode p.mode).getD [])) :
    read q.rules = read p.rules := by
  have hrules := h.map_read_eq hread
  rwa [Option.map_id, id, id] at hrules

lemma decision :
    (readDecisionPolicyRules t q.rules).map DecisionPolicyRules.unsign
      = (readDecisionPolicyRules t p.rules).map DecisionPolicyRules.unsign :=
  h.map_read_eq (weighable_shapes p.mode).decision

lemma proposal : readProposalPolicyRules q.rules = readProposalPolicyRules p.rules :=
  h.read_eq (readProposalPolicyRules_reads _)

lemma task : readTaskPolicyRules q.rules = readTaskPolicyRules p.rules :=
  h.read_eq (readTaskPolicyRules_reads _)

lemma handoff : readHandoffPolicyRules q.rules = readHandoffPolicyRules p.rules :=
  h.read_eq (readHandoffPolicyRules_reads _)

lemma quorum :
    (readQuorumPolicyRules t q.rules).map QuorumPolicyRules.unsign
      = (readQuorumPolicyRules t p.rules).map QuorumPolicyRules.unsign :=
  h.map_read_eq (readQuorumPolicyRules_reads _)

lemma commitment : extractCommitmentRules .serde q.rules = extractCommitmentRules .serde p.rules :=
  congrArg (·.getD CommitmentRules.default) (h.read_eq (commitmentSection_reads _))

/-- Both gates of an evaluation are passed under both policies or under neither. -/
lemma withRules_allows_iff {ρ β : Type} {read : Json → Option ρ}
    {view : ρ → β} {explain : Json → String} {evaluate evaluate' : ρ → PolicyDecision}
    (hread : (read q.rules).map view = (read p.rules).map view)
    (hevaluate : ∀ rules rules', view rules = view rules' →
      ((evaluate rules).Allows ↔ (evaluate' rules').Allows)) :
    (withRules (explained read explain) p evaluate).Allows
      ↔ (withRules (explained read explain) q evaluate').Allows := by
  rw [withRules_allows, withRules_allows, h.schemaVersion]
  refine and_congr_right fun _ => ?_
  simp only [explained_eq_ok]
  obtain ⟨hq, hp⟩ | ⟨rules', rules, hq, hp, hview⟩ := FloatText.cases_of_map_eq hread
  · simp [hp, hq]
  · simp only [hp, hq, Option.some.injEq, exists_eq_left']
    exact hevaluate rules rules' hview.symm

/-- What is allowed under a policy is allowed under one that differs in annotations. -/
lemma allows_iff {explain : Json → String} {render : Rendering} {participants : List String}
    {outcomePositive : Bool} {mode : CommitmentMode} :
    (defaultPolicyEvaluator (.serde t explain) render
        ⟨p, participants, outcomePositive, mode⟩).Allows
      ↔ (defaultPolicyEvaluator (.serde t explain) render
        ⟨q, participants, outcomePositive, mode⟩).Allows := by
  cases mode with
  | Decision state =>
    refine h.withRules_allows_iff h.decision fun rules rules' hview => ?_
    -- the two policies are named in a denial, and nowhere else
    rw [h.schemaVersion]
    have hdomain := Decision.decisionValueDomainError_eq_none hview render
    have hallowed := Decision.allowed_iff hview render state p.schemaVersion participants
      outcomePositive
    rw [← Decision.findings_deny_nil, ← Decision.findings_deny_nil] at hallowed
    cases hp : Decision.decisionValueDomainError render rules with
    | some reason =>
      cases hq : Decision.decisionValueDomainError render rules' with
      | some reason' => simp
      | none => simp [hp, hq] at hdomain
    | none =>
      rw [hdomain.mp hp]
      simp only [Findings.conclude_allows]
      exact hallowed
  | Proposal count =>
    exact h.withRules_allows_iff (congrArg (Option.map id) h.proposal)
      fun rules rules' hview => by cases hview; rfl
  | Task hasOutput =>
    exact h.withRules_allows_iff (congrArg (Option.map id) h.task)
      fun rules rules' hview => by cases hview; rfl
  | Handoff =>
    exact h.withRules_allows_iff (congrArg (Option.map id) h.handoff)
      fun rules rules' hview => by cases hview; rfl
  | Quorum approve reject abstain =>
    refine h.withRules_allows_iff h.quorum fun rules rules' hview => ?_
    have hthreshold : rules.threshold.unsign = rules'.threshold.unsign :=
      (congrArg QuorumPolicyRules.threshold hview :)
    have habstention : rules.abstention = rules'.abstention :=
      (congrArg QuorumPolicyRules.abstention hview :)
    simp only [Findings.conclude_allows, Findings.deny_append, List.append_eq_nil_iff,
      habstention, checkApprovals_deny_nil hthreshold]

end

end Alike

end PolicyDefinition

end MacpRuntime
