import MacpRuntime.Policy.Admission
import MacpRuntime.Server.Registries

/-!
Admission is sound for evaluation: the rules of an accepted definition parse for every mode it can
govern, and their values lie in their domains (`Admissible`), so that **no evaluation of an accepted
policy fails on its rules, no vote on its algorithm, and its approval threshold can be met**
(`admission_sound`).
-/

namespace MacpRuntime

open Std

/-- The registry that admits by these checks. -/
def Admission.registry (a : Admission) (entries : ExtTreeMap String PolicyDefinition) :
    PolicyRegistry := ⟨entries, a.validateRules true⟩

/-- A session of a mode can be started under a policy for it or for every mode. -/
def PolicyDefinition.Binds (policy : PolicyDefinition) (mode : String) : Prop :=
  policy.mode = mode ∨ policy.mode = "*"

/-- The mode whose commitment is evaluated. -/
def CommitmentMode.modeName : CommitmentMode → String
  | .Decision _ => "macp.mode.decision.v1"
  | .Proposal _ => "macp.mode.proposal.v1"
  | .Task _ => "macp.mode.task.v1"
  | .Handoff => "macp.mode.handoff.v1"
  | .Quorum .. => "macp.mode.quorum.v1"

lemma CommitmentMode.modeName_mem (mode : CommitmentMode) :
    mode.modeName ∈ standardsTrackPolicyModes := by
  cases mode <;> simp [modeName, standardsTrackPolicyModes]

/-! ### What an accepted definition has passed -/

/-- A supported version, rules that parse for the mode, and values in their domains. -/
structure Admissible (a : Admission) (policy : PolicyDefinition) : Prop where
  supported : policy.schemaVersion ∈ supportedSchemaVersions
  rulesForMode : a.validateRulesForMode policy.mode policy.rules = .ok ()
  constraints : a.validateConditionalConstraints policy.mode policy.rules = .ok ()

variable {a : Admission} {policy : PolicyDefinition}

lemma admissible_of_validateRules {reservedNamespace : Bool}
    (hv : policy.schemaVersion ∈ supportedSchemaVersions)
    (h : a.validateRules reservedNamespace policy = .ok ()) : Admissible a policy := by
  unfold Admission.validateRules at h
  obtain ⟨_, -, h⟩ := Except.bind_eq_ok_iff.mp h
  obtain ⟨_, -, h⟩ := Except.bind_eq_ok_iff.mp h
  obtain ⟨_, -, h⟩ := Except.bind_eq_ok_iff.mp h
  obtain ⟨_, hrules, hconstraints⟩ := Except.bind_eq_ok_iff.mp h
  exact ⟨hv, hrules, hconstraints⟩

/-- A registered definition was admitted. -/
lemma admissible_of_register {entries : ExtTreeMap String PolicyDefinition}
    {registry : PolicyRegistry} (h : (a.registry entries).register policy = .ok registry) :
    Admissible a policy := by
  unfold PolicyRegistry.register PolicyRegistry.validateDefinition
    PolicyRegistry.validateContent at h
  split at h
  · cases h
  · rename_i hvalid
    split_ifs at hvalid with _ _ _ hv _
    exact admissible_of_validateRules (by simpa using hv) hvalid

namespace Admissible

/-- The rules of an admitted policy parse for every mode it can govern. -/
lemma parsesForMode (h : Admissible a policy) {mode : String} (hbinds : policy.Binds mode)
    (hmode : mode ∈ standardsTrackPolicyModes) : a.parsesForMode mode policy.rules = .ok () := by
  have hrules := h.rulesForMode
  unfold Admission.validateRulesForMode at hrules
  rcases hbinds with rfl | hstar
  · rwa [if_neg (by rintro heq; rw [heq] at hmode; revert hmode; decide)] at hrules
  · rw [if_pos hstar, Except.forM_eq_ok_iff] at hrules
    exact hrules mode hmode

lemma whenParsed_ok {ρ : Type} {mode target : String} {parsed : Except String ρ}
    {validate : ρ → Except String Unit} {rules : ρ} (hmode : mode = target ∨ mode = "*")
    (hparsed : parsed = .ok rules)
    (h : Admission.whenParsed mode target parsed validate = .ok ()) :
    validate rules = .ok () := by
  subst hparsed
  unfold Admission.whenParsed at h
  rwa [if_pos hmode] at h

/-- What the constraints say, one mode after the other. -/
lemma constraints_eq_ok (h : Admissible a policy) :
    Admission.whenParsed policy.mode "macp.mode.decision.v1" (a.schemas.decision policy.rules)
        (validateDecision a.render policy.rules) = .ok ()
      ∧ Admission.whenParsed policy.mode "macp.mode.quorum.v1" (a.schemas.quorum policy.rules)
        (validateQuorum a.render a.floats policy.rules) = .ok () := by
  have hc := h.constraints
  unfold Admission.validateConditionalConstraints at hc
  obtain ⟨_, hdecision, hc⟩ := Except.bind_eq_ok_iff.mp hc
  obtain ⟨_, hquorum, -⟩ := Except.bind_eq_ok_iff.mp hc
  exact ⟨hdecision, hquorum⟩

lemma map_unit_ok {ρ : Type} {parsed : Except String ρ} {f : String → String}
    (h : (parsed.map fun _ => ()).mapError f = .ok ()) : ∃ rules, parsed = .ok rules := by
  cases parsed with
  | error e => cases h
  | ok rules => exact ⟨rules, rfl⟩

/-- The decision rules of an admitted policy. -/
lemma decision (h : Admissible a policy) (hbinds : policy.Binds "macp.mode.decision.v1") :
    ∃ rules, a.schemas.decision policy.rules = .ok rules ∧
      validateDecision a.render policy.rules rules = .ok () := by
  obtain ⟨rules, hrules⟩ := map_unit_ok (h.parsesForMode hbinds (by decide))
  exact ⟨rules, hrules, whenParsed_ok hbinds hrules h.constraints_eq_ok.1⟩

/-- The quorum rules of an admitted policy. -/
lemma quorum (h : Admissible a policy) (hbinds : policy.Binds "macp.mode.quorum.v1") :
    ∃ rules, a.schemas.quorum policy.rules = .ok rules ∧
      validateQuorum a.render a.floats policy.rules rules = .ok () := by
  obtain ⟨rules, hrules⟩ := map_unit_ok (h.parsesForMode hbinds (by decide))
  exact ⟨rules, hrules, whenParsed_ok hbinds hrules h.constraints_eq_ok.2⟩

end Admissible

/-! ### Findings about the rules -/

/-- The codes of a denial over the rules themselves. -/
def ruleFailures : List String := ["invalid_rules", "unsupported_schema_version"]

/-- No finding is about the rules themselves. -/
def Findings.Regular (f : Findings) : Prop := ∀ r ∈ f.deny, r.code ∉ ruleFailures

namespace Findings.Regular

variable {f : Findings}

lemma of_deny_nil (h : f.deny = []) : f.Regular := by simp [Findings.Regular, h]

lemma denied {code message : String} {contributors : List String} (h : code ∉ ruleFailures) :
    (Findings.denied ⟨code, message, contributors⟩).Regular := by
  simpa [Findings.Regular] using h

lemma append {g : Findings} (hf : f.Regular) (hg : g.Regular) : (f ++ g).Regular := by
  intro r hr
  rcases List.mem_append.mp hr with h | h
  · exact hf r h
  · exact hg r h

/-- A denial gives the reasons that were found. -/
lemma conclude (h : f.Regular) {fallback : String} {reasons : List DenyReason}
    (hd : f.conclude fallback = .Deny reasons) : ∀ r ∈ reasons, r.code ∉ ruleFailures := by
  unfold Findings.conclude at hd
  split_ifs at hd
  cases hd
  exact h

end Findings.Regular

open Findings (Regular)

namespace Decision

variable (render : Rendering) (rules : DecisionPolicyRules) (state : State)

lemma checkEvaluations_regular : (checkEvaluations render rules state).Regular := by
  unfold checkEvaluations
  dsimp only
  split_ifs <;> first | exact .of_deny_nil rfl | exact .denied (by decide)

lemma checkVeto_regular (outcomePositive : Bool) :
    (checkVeto rules state outcomePositive).Regular := by
  unfold checkVeto
  split
  · exact .of_deny_nil rfl
  · split
    · exact .denied (by decide)
    · exact .denied (by decide)
    · split_ifs
      · exact .denied (by decide)
      · exact .of_deny_nil rfl

lemma checkVoteQuorum_regular (participants : List String) :
    (checkVoteQuorum render rules state participants).Regular := by
  unfold checkVoteQuorum
  dsimp only
  split_ifs
  · exact .denied (by decide)
  · exact .of_deny_nil rfl

variable (schemaVersion : ℕ)

lemma approveOn_regular (result : VotingResult) :
    (approveOn rules schemaVersion result).Regular := by
  unfold approveOn
  split
  · exact .of_deny_nil rfl
  · exact .denied (by decide)
  · split_ifs <;>
      first | exact .of_deny_nil rfl | exact .denied (by decide)

lemma declineOn_regular (result : VotingResult) : (declineOn rules state result).Regular := by
  unfold declineOn
  split
  · dsimp only
    split_ifs <;>
      first | exact .of_deny_nil rfl | exact .denied (by decide)
  · split_ifs
    · exact .of_deny_nil rfl
    · exact .denied (by decide)
  · exact .denied (by decide)

lemma checkVotes_regular (participants : List String) (outcomePositive : Bool) :
    (checkVotes render rules state schemaVersion participants outcomePositive).Regular := by
  unfold checkVotes
  dsimp only
  split_ifs
  · exact .of_deny_nil rfl
  · exact .of_deny_nil rfl
  · exact approveOn_regular _ _ _
  · exact declineOn_regular _ _ _

lemma findings_regular (participants : List String) (outcomePositive : Bool) :
    (findings render rules state schemaVersion participants outcomePositive).Regular := by
  unfold findings
  dsimp only
  refine .append (.append (.append ?_ (checkVeto_regular _ _ _)) ?_)
    (checkVotes_regular _ _ _ _ _ _)
  · split_ifs
    · exact .of_deny_nil rfl
    · exact checkEvaluations_regular _ _ _
  · split_ifs
    · exact .of_deny_nil rfl
    · exact checkVoteQuorum_regular _ _ _ _

end Decision

lemma checkApprovals_regular (render : Rendering) (threshold : QuorumThreshold)
    (approveCount totalParticipants : ℕ) (outcomePositive : Bool) :
    (checkApprovals render threshold approveCount totalParticipants outcomePositive).Regular := by
  unfold checkApprovals
  split
  · exact .of_deny_nil rfl
  · dsimp only
    split_ifs <;>
      first | exact .of_deny_nil rfl | exact .denied (by decide)
  · split_ifs <;>
      first | exact .of_deny_nil rfl | exact .denied (by decide)

lemma reportAbstentions_regular (abstention : AbstentionRules) (rejectCount abstainCount : ℕ) :
    (reportAbstentions abstention rejectCount abstainCount).Regular := by
  unfold reportAbstentions
  dsimp only
  split_ifs <;> exact .of_deny_nil rfl

/-- Rules that parse under a supported version are evaluated. -/
lemma withRules_eq {ρ : Type} {read : Json → Except String ρ} {evaluate : ρ → PolicyDecision}
    {rules : ρ} (hv : policy.schemaVersion ∈ supportedSchemaVersions)
    (hread : read policy.rules = .ok rules) : withRules read policy evaluate = evaluate rules := by
  unfold withRules checkSchemaVersion parseRules
  rw [if_pos hv, hread]

/-! ### Unknown algorithms -/

namespace Decision

/-- The words a vote under an unknown algorithm fails with. -/
def SaysUnknown (text : String) : Prop := "unknown voting algorithm".toList <+: text.toList

/-- A text that begins otherwise says nothing of an unknown algorithm. -/
lemma not_saysUnknown {text : String} (start : String) (hstart : start.toList <+: text.toList)
    (h : (start.toList.take 3).length = 3 ∧ start.toList.take 3 ≠ ['u', 'n', 'k']) :
    ¬ SaysUnknown text := by
  rintro ⟨rest, hrest⟩
  obtain ⟨more, hmore⟩ := hstart
  rw [← hmore] at hrest
  have htake := congrArg (List.take 3) hrest
  rw [List.take_append_of_le_length (by decide),
    List.take_append_of_le_length (by simpa using h.1)] at htake
  exact h.2 (htake.symm.trans rfl)

variable {reason : String} {render : Rendering}

lemma compareRatio_known {name subject : String} {ratio threshold : Float}
    (hname : (name.toList.take 3).length = 3 ∧ name.toList.take 3 ≠ ['u', 'n', 'k'])
    (h : compareRatio render name subject ratio threshold = .Failed reason) :
    ¬ SaysUnknown reason := by
  unfold compareRatio at h
  dsimp only at h
  split_ifs at h
  cases h
  refine not_saysUnknown name ?_ hname
  simp only [String.toList_append, List.append_assoc]
  exact List.prefix_append _ _

/-- A vote under an admitted algorithm does not fail for being unknown; `none` holds no vote. -/
lemma checkVotingAlgorithm_known {voting : VotingRules}
    {votes : ExtTreeMap String (ExtTreeMap String Vote)} {participants : List String}
    (hmem : voting.algorithm ∈ decisionVotingAlgorithms) (hnone : voting.algorithm ≠ "none")
    (h : checkVotingAlgorithm render voting votes participants = .Failed reason) :
    ¬ SaysUnknown reason := by
  -- the texts differ in their first three letters
  have begins {start : String} {l : List Char} : start.toList <+: start.toList ++ l :=
    List.prefix_append _ _
  unfold checkVotingAlgorithm at h
  dsimp only at h
  split at h
  · cases h
  split at h
  · exact compareRatio_known (by decide) h
  rename_i hmajority
  split at h
  · exact compareRatio_known (by decide) h
  rename_i hsuper
  split at h
  · split_ifs at h
    cases h
    refine not_saysUnknown "unanimous vote failed: " ?_ (by decide)
    simp only [String.toList_append, List.append_assoc]
    exact begins
  rename_i hunanimous
  split at h
  · split_ifs at h
    · cases h
      refine not_saysUnknown "weighted vote failed: the weights of the votes cast sum to " ?_
        (by decide)
      simp only [String.toList_append, List.append_assoc]
      exact begins
    · exact compareRatio_known (by decide) h
  rename_i hweighted
  split at h
  · split_ifs at h
    · cases h
      refine not_saysUnknown "plurality vote tied: " ?_ (by decide)
      simp only [String.toList_append, List.append_assoc]
      exact begins
    · cases h
      refine not_saysUnknown "plurality vote failed: " ?_ (by decide)
      simp only [String.toList_append, List.append_assoc]
      exact begins
  rename_i hplurality
  simp only [beq_iff_eq] at hmajority hsuper hunanimous hweighted hplurality
  simp [decisionVotingAlgorithms, hnone, hmajority, hsuper, hunanimous, hweighted,
    hplurality] at hmem

end Decision

/-! ### Domains -/

variable {raw : Json} {render : Rendering} {rules : QuorumPolicyRules} {n : ℕ}
  {threshold : QuorumThreshold}

/-- The domains of admitted decision rules that an evaluation relies on. -/
lemma validateDecision_eq_ok {rules : DecisionPolicyRules}
    (h : validateDecision render raw rules = .ok ()) :
    rules.voting.algorithm ∈ decisionVotingAlgorithms
      ∧ (∀ w ∈ rules.voting.weights.toList, ¬ w.2 ≤ 0 ∧ w.2.isNaN = false)
      ∧ Decision.decisionValueDomainError render rules = none := by
  unfold validateDecision at h
  obtain ⟨_, hvoting, h⟩ := Except.bind_eq_ok_iff.mp h
  obtain ⟨_, hdomain, -⟩ := Except.bind_eq_ok_iff.mp h
  unfold validateDecisionVoting at hvoting
  obtain ⟨_, halgorithm, hvoting⟩ := Except.bind_eq_ok_iff.mp hvoting
  obtain ⟨_, -, hvoting⟩ := Except.bind_eq_ok_iff.mp hvoting
  obtain ⟨_, hweights, -⟩ := Except.bind_eq_ok_iff.mp hvoting
  refine ⟨by simpa using halgorithm, fun w hw => ?_, by simpa using hdomain⟩
  rw [Except.refuseIf_eq_ok, not_not, List.map_eq_nil_iff, List.filter_eq_nil_iff] at hweights
  simpa using hweights w hw

/-- The domain of an admitted threshold. -/
lemma validateQuorum_eq_ok {t : FloatText} (h : validateQuorum render t raw rules = .ok ()) :
    rules.threshold.thresholdType ∈ quorumThresholdTypes
      ∧ Double.isWhole rules.threshold.value = true
      ∧ (rules.threshold.thresholdType = "percentage" → ¬ 100 < rules.threshold.value)
      ∧ ∃ value, presentNumber t raw ["threshold", "value"] = .ok value ∧ ∀ x ∈ value, 0 < x := by
  unfold validateQuorum at h
  obtain ⟨_, hthreshold, h⟩ := Except.bind_eq_ok_iff.mp h
  obtain ⟨value, hvalue, hpositive⟩ := Except.bind_eq_ok_iff.mp h
  unfold validateQuorumThreshold at hthreshold
  obtain ⟨_, htype, hthreshold⟩ := Except.bind_eq_ok_iff.mp hthreshold
  obtain ⟨_, hwhole, hpercent⟩ := Except.bind_eq_ok_iff.mp hthreshold
  refine ⟨by simpa using htype, by simpa using hwhole, by simpa using hpercent, value, hvalue, ?_⟩
  simpa using hpositive

/-- A threshold value that is set is the one the rules are evaluated with. -/
lemma threshold_value_of_present {t : FloatText} {value : Option Float}
    (hread : readQuorumPolicyRules t raw = some rules)
    (hvalue : presentNumber t raw ["threshold", "value"] = .ok value) :
    (value = none ∧ (raw.get? "threshold").bind (·.get? "value") = none)
      ∨ value = some rules.threshold.value := by
  unfold readQuorumPolicyRules at hread
  obtain ⟨members, hmembers, hread⟩ := Option.bind_eq_some_iff.mp hread
  obtain ⟨threshold, hthreshold, hread⟩ := Option.bind_eq_some_iff.mp hread
  obtain ⟨abstention, -, hread⟩ := Option.bind_eq_some_iff.mp hread
  obtain ⟨commitment, -, hread⟩ := Option.bind_eq_some_iff.mp hread
  cases hread
  unfold presentNumber at hvalue
  -- what is on the way to the value is an object
  cases raw with
  | object outer =>
    cases hmembers
    simp only [Json.get?]
    unfold Serde.fieldOr at hthreshold
    cases hchild : members.lookup "threshold" with
    | none =>
      simp only [presentAt_object, hchild] at hvalue
      cases hvalue
      exact .inl ⟨rfl, rfl⟩
    | some child =>
      rw [hchild] at hthreshold
      simp only [presentAt_object, hchild] at hvalue
      unfold readQuorumThreshold at hthreshold
      obtain ⟨inner, hinner, hthreshold⟩ := Option.bind_eq_some_iff.mp hthreshold
      obtain ⟨kind, -, hthreshold⟩ := Option.bind_eq_some_iff.mp hthreshold
      obtain ⟨x, hx, hthreshold⟩ := Option.bind_eq_some_iff.mp hthreshold
      cases hthreshold
      cases child with
      | object _ =>
        cases hinner
        unfold Serde.fieldOr at hx
        cases hv : inner.lookup "value" with
        | none =>
          simp only [presentAt_object, hv] at hvalue
          cases hvalue
          exact .inl ⟨rfl, hv⟩
        | some v =>
          rw [hv] at hx
          simp only [hv, presentAt, hx] at hvalue
          cases hvalue
          exact .inr rfl
      | _ => cases hvalue
  | _ => cases hvalue

/-- A percentage of the participants asks for at most all of them. -/
lemma percentage_le {required : UInt32} (hn : 1 ≤ n)
    (htype : threshold.thresholdType = "percentage")
    (hwhole : Double.isWhole threshold.value = true) (hmax : ¬ 100 < threshold.value)
    (h : threshold.effective n = .Approvals required) : required.toNat ≤ n := by
  have htrunc := Double.truncTo_le_hundred (2 ^ 128 - 1) hmax
  unfold QuorumThreshold.effective at h
  rw [htype, hwhole] at h
  simp only [beq_self_eq_true, if_true] at h
  split_ifs at h
  cases h
  generalize Double.truncTo (2 ^ 128 - 1) threshold.value = percent at htrunc ⊢
  have hscaled : percent * n ≤ 100 * n := Nat.mul_le_mul_right n htrunc
  rw [UInt32.toNat_ofNat']
  refine (Nat.mod_le _ _).trans ?_
  omega

/-- A threshold of an admitted type can be met by the participants there are. -/
lemma effective_satisfiable (hn : 1 ≤ n) (htype : threshold.thresholdType ∈ quorumThresholdTypes) :
    threshold.effective n ≠ .Unsatisfiable := by
  intro h
  unfold QuorumThreshold.effective at h
  simp only [quorumThresholdTypes, List.mem_cons, List.not_mem_nil, or_false] at htype
  rcases htype with ht | ht | ht <;> rw [ht] at h <;> split_ifs at h <;>
    first | omega | (simp at *)

/-- A threshold is inert when its value is not positive. -/
lemma not_pos_of_inert (h : threshold.effective n = .Inert) : ¬ 0 < threshold.value := by
  intro hpos
  unfold QuorumThreshold.effective at h
  rw [if_neg (not_not.mpr hpos)] at h
  dsimp only at h
  split_ifs at h

/-! ### Soundness -/

/-- No evaluation of an admitted policy is about its rules. -/
lemma Admissible.evaluate (h : Admissible a policy) {participants : List String}
    {outcomePositive : Bool} {mode : CommitmentMode} (hbinds : policy.Binds mode.modeName)
    {reasons : List DenyReason}
    (hd : defaultPolicyEvaluator a.schemas a.render ⟨policy, participants, outcomePositive, mode⟩
      = .Deny reasons) : ∀ r ∈ reasons, r.code ∉ ruleFailures := by
  have hparses := h.parsesForMode hbinds mode.modeName_mem
  cases mode with
  | Decision state =>
    obtain ⟨rules, hrules, hvalid⟩ := h.decision hbinds
    simp only [defaultPolicyEvaluator, evaluateDecisionCommitmentOutcome,
      withRules_eq h.supported hrules, (validateDecision_eq_ok hvalid).2.2] at hd
    exact (Decision.findings_regular _ _ _ _ _ _).conclude hd
  | Proposal counterProposalCount =>
    obtain ⟨rules, hrules⟩ := Admissible.map_unit_ok hparses
    simp only [defaultPolicyEvaluator, evaluateProposalCommitmentOutcome,
      withRules_eq h.supported hrules] at hd
    refine Findings.Regular.conclude ?_ hd
    split_ifs <;> first | exact .of_deny_nil rfl | exact .denied (by decide)
  | Task hasOutput =>
    obtain ⟨rules, hrules⟩ := Admissible.map_unit_ok hparses
    simp only [defaultPolicyEvaluator, evaluateTaskCommitmentOutcome,
      withRules_eq h.supported hrules] at hd
    refine Findings.Regular.conclude ?_ hd
    split_ifs <;> first | exact .of_deny_nil rfl | exact .denied (by decide)
  | Handoff =>
    obtain ⟨rules, hrules⟩ := Admissible.map_unit_ok hparses
    simp only [defaultPolicyEvaluator, evaluateHandoffCommitmentOutcome,
      withRules_eq h.supported hrules] at hd
    cases hd
  | Quorum approveCount rejectCount abstainCount =>
    obtain ⟨rules, hrules⟩ := Admissible.map_unit_ok hparses
    simp only [defaultPolicyEvaluator, evaluateQuorumCommitmentOutcome,
      withRules_eq h.supported hrules] at hd
    exact Findings.Regular.conclude (.append (checkApprovals_regular _ _ _ _ _)
      (reportAbstentions_regular _ _ _)) hd

/-- **Admission is sound for evaluation**: no evaluation of a registered policy, in a mode it can
govern, denies for its rules or their version; no vote under it fails for an unknown algorithm;
and for a quorum of at least one participant its threshold can be met, is no bar above the number
of participants when it is a percentage, and is inert only when no value is set. -/
theorem admission_sound {entries : ExtTreeMap String PolicyDefinition}
    {registry : PolicyRegistry} (h : (a.registry entries).register policy = .ok registry) :
    (∀ ctx : CommitmentContext, ctx.policy = policy → policy.Binds ctx.mode.modeName →
        ∀ reasons, defaultPolicyEvaluator a.schemas a.render ctx = .Deny reasons →
          ∀ r ∈ reasons, r.code ≠ "invalid_rules" ∧ r.code ≠ "unsupported_schema_version")
      ∧ (policy.Binds "macp.mode.decision.v1" → ∀ rules,
          a.schemas.decision policy.rules = .ok rules → rules.voting.algorithm ≠ "none" →
            ∀ votes participants reason,
              Decision.checkVotingAlgorithm a.render rules.voting votes participants
                  = .Failed reason →
                ¬ Decision.SaysUnknown reason)
      ∧ (policy.Binds "macp.mode.quorum.v1" → ∀ n, 1 ≤ n →
          let threshold := (a.schemas.quorumOrDefault policy.rules).threshold
          threshold.effective n ≠ .Unsatisfiable
            ∧ (threshold.thresholdType = "percentage" →
                ∀ required, threshold.effective n = .Approvals required → required.toNat ≤ n)
            ∧ (threshold.effective n = .Inert →
                (policy.rules.get? "threshold").bind (·.get? "value") = none)) := by
  have hadm := admissible_of_register h
  refine ⟨?_, ?_, ?_⟩
  · rintro ⟨_, participants, outcomePositive, mode⟩ rfl hbinds reasons hd r hr
    have hcode := hadm.evaluate hbinds hd r hr
    simpa [ruleFailures] using hcode
  · intro hbinds rules hrules hnone votes participants reason hfailed
    obtain ⟨rules', hrules', hvalid⟩ := hadm.decision hbinds
    cases hrules.symm.trans hrules'
    exact Decision.checkVotingAlgorithm_known (validateDecision_eq_ok hvalid).1 hnone hfailed
  · intro hbinds n hn
    obtain ⟨rules, hrules, hvalid⟩ := hadm.quorum hbinds
    obtain ⟨htype, hwhole, hmax, value, hvalue, hpos⟩ := validateQuorum_eq_ok hvalid
    have hdefault : a.schemas.quorumOrDefault policy.rules = rules := by
      simp [RuleSchemas.quorumOrDefault, hrules, Except.toOption]
    rw [hdefault]
    refine ⟨effective_satisfiable hn htype, fun hp required hreq =>
      percentage_le hn hp hwhole (hmax hp) hreq, fun hinert => ?_⟩
    rcases threshold_value_of_present (explained_eq_ok.mp hrules) hvalue with ⟨-, hunset⟩ | hset
    · exact hunset
    · exact absurd (hpos _ hset) (not_pos_of_inert hinert)

/-- No extensions, and decimal texts of doubles. -/
def Admission.plain : Admission := ⟨exactDecimal, fun _ => "", .plain, ∅⟩

/-- A policy for every mode: votes are by majority, and half of a quorum approves. -/
def halfPolicy : PolicyDefinition where
  policyId := "policy.half"
  mode := "*"
  description := ""
  rules := .object [("threshold", .object [("type", .string "percentage"),
      ("value", .number (.posInt 50))]),
    ("voting", .object [("algorithm", .string "majority")])]
  schemaVersion := 3

lemma halfPolicy_registered :
    ∃ registry, (Admission.plain.registry ∅).register halfPolicy = .ok registry :=
  Except.exists_eq_ok_of_toBool (by decide +kernel)

theorem admission_sound_half :
    (∃ registry, (Admission.plain.registry ∅).register halfPolicy = .ok registry)
      ∧ halfPolicy.Binds "macp.mode.quorum.v1"
      ∧ (Admission.plain.schemas.quorumOrDefault halfPolicy.rules).threshold.effective 4
        ≠ .Unsatisfiable := by
  obtain ⟨registry, h⟩ := halfPolicy_registered
  exact ⟨⟨registry, h⟩, .inr rfl, ((admission_sound h).2.2 (.inr rfl) 4 (by decide)).1⟩

end MacpRuntime
