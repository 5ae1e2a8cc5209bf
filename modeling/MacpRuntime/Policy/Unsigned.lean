import MacpRuntime.Lib.JsonEq
import MacpRuntime.Policy.Schemas
import MacpRuntime.Policy.Tally

/-!
The sign of zero in a policy's rules has no effect: the evaluator denies the same with and without
it.
-/

namespace MacpRuntime

open Std
open Serde Double FloatText

/-! ### Rule sets -/

/-- Rules with every zero positive, and so for the other sets. -/
def QuorumRules.unsign (rules : QuorumRules) : QuorumRules :=
  { rules with value := Double.unsign rules.value }

def VotingRules.unsign (rules : VotingRules) : VotingRules :=
  { rules with
    threshold := Double.unsign rules.threshold
    quorum := rules.quorum.unsign
    weights := unsignMap rules.weights }

def EvaluationRules.unsign (rules : EvaluationRules) : EvaluationRules :=
  { rules with minimumConfidence := Double.unsign rules.minimumConfidence }

def DecisionPolicyRules.unsign (rules : DecisionPolicyRules) : DecisionPolicyRules :=
  { rules with voting := rules.voting.unsign, evaluation := rules.evaluation.unsign }

def QuorumThreshold.unsign (threshold : QuorumThreshold) : QuorumThreshold :=
  { threshold with value := Double.unsign threshold.value }

def QuorumPolicyRules.unsign (rules : QuorumPolicyRules) : QuorumPolicyRules :=
  { rules with threshold := rules.threshold.unsign }

/-! ### Doubles up to the sign of zero -/

namespace Decision

section Doubles

variable {x y : Float} (h : unsign x = unsign y)
include h

variable (z : Float)

lemma le_congr : Arith.float.le x z = Arith.float.le y z :=
  decide_eq_decide.mpr (by rw [← unsign_le, h, unsign_le])

lemma le_congr_right : Arith.float.le z x = Arith.float.le z y :=
  decide_eq_decide.mpr (by rw [← le_unsign, h, le_unsign])

lemma lt_congr : Arith.float.lt x z = Arith.float.lt y z :=
  decide_eq_decide.mpr (by rw [← unsign_lt, h, unsign_lt])

lemma lt_congr_right : Arith.float.lt z x = Arith.float.lt z y :=
  decide_eq_decide.mpr (by rw [← lt_unsign, h, lt_unsign])

lemma eq_congr : Arith.float.eq x z = Arith.float.eq y z := by
  change (x == z) = (y == z)
  rw [← unsign_beq, h, unsign_beq]

lemma add_congr {v w : Float} (hw : unsign v = unsign w) :
    unsign (Arith.float.add x v) = unsign (Arith.float.add y w) := by
  change unsign (x + v) = unsign (y + w)
  rw [← unsign_add, h, hw, unsign_add]

lemma meets_congr (ratio : Float) : meets .float x ratio = meets .float y ratio := by
  rw [meets, meets, le_congr h]

end Doubles

/-! ### Votes -/

lemma weightOf_unsignMap (weights : ExtTreeMap String Float) (voter : String) :
    weightOf (unsignMap weights) voter = unsign (weightOf weights voter) := by
  rw [weightOf, weightOf, unsignMap, ExtTreeMap.getElem?_map]
  cases weights[voter]? with
  | none => exact unsign_zero.symm
  | some x => rfl

/-- Sums that differ in the sign of zero at most. -/
def SameSums (sums sums' : Float × Float) : Prop :=
  unsign sums.1 = unsign sums'.1 ∧ unsign sums.2 = unsign sums'.2

/-- A total that is not zero has no sign to lose. -/
lemma SameSums.meets_eq {sums sums' : Float × Float} (h : SameSums sums sums') (threshold : Float)
    (hzero : ¬ Arith.float.eq sums.2 (Arith.float.ofNat 0) = true) :
    meets .float threshold (Arith.float.div sums.1 sums.2)
      = meets .float threshold (Arith.float.div sums'.1 sums'.2) := by
  have hne : (sums.2 == 0) = false := (Bool.not_eq_true _).mp hzero
  have hne' : (sums'.2 == 0) = false := (eq_congr h.2 0).symm.trans hne
  have htotal : sums.2 = sums'.2 := by rw [← unsign_of_ne hne, h.2, unsign_of_ne hne']
  have hratio : unsign (sums.1 / sums.2) = unsign (sums'.1 / sums'.2) := by
    rw [← unsign_div, h.1, unsign_div, htotal]
  rw [meets, meets]
  exact congrArg (fun b : Bool => if b = true then Verdict.passed else .failed)
    (le_congr_right hratio threshold)

/-- Voting rules that differ in the signs of zeros at most. -/
structure SameVoting (v w : Voting Float) : Prop where
  algorithm : v.algorithm = w.algorithm
  threshold : unsign v.threshold = unsign w.threshold
  quorumType : v.quorumType = w.quorumType
  quorumValue : unsign v.quorumValue = unsign w.quorumValue
  weight : ∀ voter, unsign (v.weight voter) = unsign (w.weight voter)

namespace SameVoting

variable {v w : Voting Float} (h : SameVoting v w)
  (votes : ExtTreeMap String (ExtTreeMap String Vote))
include h

lemma quorumMet (voters participants : ℕ) :
    quorumMet .float v voters participants = quorumMet .float w voters participants := by
  rw [Decision.quorumMet, Decision.quorumMet, h.quorumType, le_congr h.quorumValue,
    le_congr h.quorumValue, le_congr h.quorumValue]

lemma decisiveRejects : decisiveRejects .float v votes = decisiveRejects .float w votes := by
  unfold Decision.decisiveRejects
  rw [h.algorithm]
  simp only [lt_congr_right (h.weight _)]

lemma weightedVotes : SameSums (weightedVotes .float v votes) (weightedVotes .float w votes) := by
  refine List.foldl_rel ⟨rfl, rfl⟩ fun ballot _ sums sums' hsums => ?_
  unfold addWeight
  split_ifs
  · exact ⟨add_congr hsums.1 (h.weight _), add_congr hsums.2 (h.weight _)⟩
  · exact ⟨hsums.1, add_congr hsums.2 (h.weight _)⟩
  · exact hsums

lemma verdict (participants : List String) :
    verdict .float v votes participants = verdict .float w votes participants := by
  have hsums := h.weightedVotes votes
  unfold Decision.verdict
  dsimp only
  rw [h.algorithm, lt_congr hsums.2, eq_congr hsums.2, lt_congr_right h.threshold,
    meets_congr h.threshold, meets_congr h.threshold]
  refine if_congr Iff.rfl rfl (if_congr Iff.rfl rfl (if_congr Iff.rfl ?_ (if_congr Iff.rfl rfl
    (if_congr Iff.rfl (if_congr Iff.rfl rfl ?_) rfl))))
  · split_ifs
    · exact meets_congr h.threshold _
    · rfl
  · split_ifs with hzero
    · rfl
    · exact hsums.meets_eq _ (by rwa [eq_congr hsums.2])

end SameVoting

/-! ### Commitments -/

section Commitments

variable {rules rules' : DecisionPolicyRules} (h : rules.unsign = rules'.unsign)
include h

lemma sameVoting_of_unsign : SameVoting (rules.voting.read id) (rules'.voting.read id) := by
  have hvoting : rules.voting.unsign = rules'.voting.unsign :=
    congrArg DecisionPolicyRules.voting h
  have hquorum : rules.voting.quorum.unsign = rules'.voting.quorum.unsign :=
    congrArg VotingRules.quorum hvoting
  have hweights : unsignMap rules.voting.weights = unsignMap rules'.voting.weights :=
    congrArg VotingRules.weights hvoting
  refine ⟨(congrArg VotingRules.algorithm hvoting :), (congrArg VotingRules.threshold hvoting :),
    (congrArg QuorumRules.quorumType hquorum :), (congrArg QuorumRules.value hquorum :),
    fun voter => ?_⟩
  change unsign (weightOf rules.voting.weights voter)
    = unsign (weightOf rules'.voting.weights voter)
  rw [← weightOf_unsignMap, hweights, weightOf_unsignMap]

lemma minimumConfidence_of_unsign : unsign rules.evaluation.minimumConfidence
    = unsign rules'.evaluation.minimumConfidence :=
  congrArg (fun rules => rules.evaluation.minimumConfidence) h

lemma objectionHandling_of_unsign : rules.objectionHandling = rules'.objectionHandling :=
  (congrArg DecisionPolicyRules.objectionHandling h :)

lemma commitment_of_unsign : rules.commitment = rules'.commitment :=
  (congrArg DecisionPolicyRules.commitment h :)

variable (render : Rendering)

lemma decisionValueDomainError_eq_none :
    decisionValueDomainError render rules = none
      ↔ decisionValueDomainError render rules' = none := by
  have hlow : 0 ≤ rules.evaluation.minimumConfidence
      ↔ 0 ≤ rules'.evaluation.minimumConfidence := by
    rw [← le_unsign, minimumConfidence_of_unsign h, le_unsign]
  have hhigh : rules.evaluation.minimumConfidence ≤ 1
      ↔ rules'.evaluation.minimumConfidence ≤ 1 := by
    rw [← unsign_le, minimumConfidence_of_unsign h, unsign_le]
  unfold decisionValueDomainError
  dsimp only
  rw [objectionHandling_of_unsign h]
  simp only [hlow, hhigh]
  split_ifs <;> simp

lemma checkEvaluations_deny_nil (state : State) :
    (checkEvaluations render rules state).deny = []
      ↔ (checkEvaluations render rules' state).deny = [] := by
  have hrequired : rules.evaluation.requiredBeforeVoting
      = rules'.evaluation.requiredBeforeVoting :=
    congrArg (fun rules => rules.evaluation.requiredBeforeVoting) h
  have hpositive : 0 < rules.evaluation.minimumConfidence
      ↔ 0 < rules'.evaluation.minimumConfidence := by
    rw [← lt_unsign, minimumConfidence_of_unsign h, lt_unsign]
  have hmet (x : Float) : rules.evaluation.minimumConfidence ≤ x
      ↔ rules'.evaluation.minimumConfidence ≤ x := by
    rw [← unsign_le, minimumConfidence_of_unsign h, unsign_le]
  unfold checkEvaluations
  dsimp only
  rw [hrequired]
  simp only [hpositive, hmet]
  split_ifs <;> simp

/-- What is allowed under some rules is allowed whatever the signs of their zeros. -/
lemma allowed_iff (state : State) (schemaVersion : ℕ)
    (participants : List String) (outcomePositive : Bool) :
    Allowed .float (rules.voting.read id) rules schemaVersion participants render state
        outcomePositive
      ↔ Allowed .float (rules'.voting.read id) rules' schemaVersion participants render state
        outcomePositive := by
  have hvoting := sameVoting_of_unsign h
  unfold Allowed VotesAllow Carried objectionAuthorizedDecline checkVeto criticalVeto
  rw [checkEvaluations_deny_nil h, objectionHandling_of_unsign h, commitment_of_unsign h,
    hvoting.algorithm, hvoting.quorumMet, hvoting.verdict, hvoting.decisiveRejects]

end Commitments

end Decision

/-! ### Quorums -/

/-- A threshold that is zero is no bar, whatever its sign. -/
lemma QuorumThreshold.effective_congr {threshold threshold' : QuorumThreshold}
    (h : threshold.unsign = threshold'.unsign) (totalParticipants : ℕ) :
    threshold.effective totalParticipants = threshold'.effective totalParticipants := by
  have hunsign (threshold : QuorumThreshold) :
      threshold.unsign.effective totalParticipants = threshold.effective totalParticipants := by
    refine congr_unsign
      (fun x => QuorumThreshold.effective ⟨threshold.thresholdType, x⟩ totalParticipants) ?_ _
    have hpos : ¬ (0 : Float) < 0 := by decide +kernel
    have hneg : ¬ (0 : Float) < -0 := by decide +kernel
    rw [QuorumThreshold.effective, QuorumThreshold.effective, if_pos hpos, if_pos hneg]
  rw [← hunsign, h, hunsign]

lemma checkApprovals_deny_nil {threshold threshold' : QuorumThreshold}
    (h : threshold.unsign = threshold'.unsign) (render : Rendering)
    (approveCount totalParticipants : ℕ) (outcomePositive : Bool) :
    (checkApprovals render threshold approveCount totalParticipants outcomePositive).deny = []
      ↔ (checkApprovals render threshold' approveCount totalParticipants outcomePositive).deny
        = [] := by
  unfold checkApprovals
  rw [QuorumThreshold.effective_congr h]
  cases threshold'.effective totalParticipants with
  | Inert => rfl
  | Approvals required =>
    dsimp only
    split_ifs <;> simp
  | Unsatisfiable =>
    dsimp only
    split_ifs <;> simp

end MacpRuntime
