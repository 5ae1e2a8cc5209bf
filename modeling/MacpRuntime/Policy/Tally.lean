import MacpRuntime.Lib.Double
import MacpRuntime.Lib.Nested
import MacpRuntime.Policy.Outcomes

/-!
The tally of a decision over any arithmetic.

The evaluator compares ratios, weights and quorums in doubles.  The same evaluation is written here
over the operations of an `Arith`, so that it can be read in doubles, as the code does
(`Arith.float`), or in exact rationals (`Arith.exact`).  `evaluate_allows_iff`: **over doubles this
is the evaluator**.
-/

namespace MacpRuntime

open Std

namespace Decision

/-! ### Arithmetic -/

/-- The operations an evaluation performs on numbers. -/
structure Arith (K : Type) where
  ofNat : ℕ → K
  add : K → K → K
  mul : K → K → K
  div : K → K → K
  half : K
  le : K → K → Bool
  lt : K → K → Bool
  eq : K → K → Bool

/-- Doubles, as the evaluator computes. -/
def Arith.float : Arith Float where
  ofNat := Float.ofNat
  add := (· + ·)
  mul := (· * ·)
  div := (· / ·)
  half := 0.5
  le := fun x y => decide (x ≤ y)
  lt := fun x y => decide (x < y)
  eq := (· == ·)

/-- Exact rationals. -/
def Arith.exact : Arith ℚ where
  ofNat := fun n => n
  add := (· + ·)
  mul := (· * ·)
  div := (· / ·)
  half := 1 / 2
  le := fun x y => decide (x ≤ y)
  lt := fun x y => decide (x < y)
  eq := fun x y => decide (x = y)

/-- The voting rules, with numbers in `K`; a voter without a weight weighs nothing. -/
structure Voting (K : Type) where
  algorithm : String
  threshold : K
  quorumType : String
  quorumValue : K
  weight : String → K

end Decision

/-- The numbers of the rules under a reading of doubles. -/
def VotingRules.read {K : Type} (read : Float → K) (voting : VotingRules) : Decision.Voting K where
  algorithm := voting.algorithm
  threshold := read voting.threshold
  quorumType := voting.quorum.quorumType
  quorumValue := read voting.quorum.value
  weight := fun voter => read (Decision.weightOf voting.weights voter)

namespace Decision

/-! ### Counters and tests -/

section Tests

variable {K : Type} (A : Arith K) (voting : Voting K)

/-- The participation floor. -/
def quorumMet (voters participants : ℕ) : Bool :=
  if voting.quorumType == "percentage" then
    if participants = 0 then A.le voting.quorumValue (A.ofNat 0)
    else A.le voting.quorumValue
      (A.mul (A.div (A.ofNat voters) (A.ofNat participants)) (A.ofNat 100))
  else A.le voting.quorumValue (A.ofNat voters)

/-- How a vote ends. -/
inductive Verdict where
  | passed
  | failed
  | noVotes
  deriving DecidableEq, Repr

/-- A ratio against its threshold. -/
def meets (threshold ratio : K) : Verdict := if A.le threshold ratio then .passed else .failed

/-- A ballot that counts for or against. -/
def isDecisive (vote : Vote) : Bool := vote.vote == "APPROVE" || vote.vote == "REJECT"

/-- One ballot added to the weight of the approvals and of all decisive ballots. -/
def addWeight (sums : K × K) (ballot : String × Vote) : K × K :=
  if isDecisive ballot.2 then
    (if ballot.2.vote == "APPROVE" then A.add sums.1 (voting.weight ballot.1) else sums.1,
      A.add sums.2 (voting.weight ballot.1))
  else sums

variable (votes : ExtTreeMap String (ExtTreeMap String Vote))

/-- The weight of the approvals and of all decisive ballots. -/
def weightedVotes : K × K := (ballots votes).foldl (addWeight A voting) (A.ofNat 0, A.ofNat 0)

/-- Some ballot of a participant approves. -/
def approvedBy (participant : String) : Bool :=
  votes.toList.any fun entry => (entry.2[participant]?.map (·.vote == "APPROVE")).getD false

/-- The voting algorithm. -/
def verdict (participants : List String) : Verdict :=
  let tally := aggregateVotes votes
  let ratio := A.div (A.ofNat tally.approve) (A.ofNat tally.nonAbstainTotal)
  if tally.nonAbstainTotal = 0 then .noVotes
  else if voting.algorithm == "majority" then meets A voting.threshold ratio
  else if voting.algorithm == "supermajority" then
    meets A (if A.lt A.half voting.threshold then voting.threshold
      else A.div (A.ofNat 2) (A.ofNat 3)) ratio
  else if voting.algorithm == "unanimous" then
    if participants.all (approvedBy votes) && tally.reject == 0 then .passed else .failed
  else if voting.algorithm == "weighted" then
    let sums := weightedVotes A voting votes
    if A.lt sums.2 (A.ofNat 0) then .failed
    else if A.eq sums.2 (A.ofNat 0) then .noVotes
    else meets A voting.threshold (A.div sums.1 sums.2)
  else if voting.algorithm == "plurality" then
    if tally.reject < tally.approve then .passed else .failed
  else .failed

/-- Rejections that may carry a decline. -/
def decisiveRejects : ℕ :=
  (ballots votes).countP fun b =>
    b.2.vote == "REJECT" &&
      (voting.algorithm != "weighted" || A.lt (A.ofNat 0) (voting.weight b.1))

end Tests

lemma ballots_eq (votes : ExtTreeMap String (ExtTreeMap String Vote)) :
    ballots votes = (Table.entries votes).map fun e => (e.1.2, e.2) := by
  simp [ballots, Table.entries, List.map_flatMap, Function.comp_def]

lemma approvedBy_iff {votes : ExtTreeMap String (ExtTreeMap String Vote)}
    {participant : String} :
    approvedBy votes participant = true ↔
      ∃ vote, (participant, vote) ∈ ballots votes ∧ vote.vote = "APPROVE" := by
  simp only [approvedBy, List.any_eq_true, Prod.exists, mem_ballots,
    ExtTreeMap.mem_toList_iff_getElem?_eq_some]
  constructor
  · rintro ⟨proposalId, proposalVotes, hp, happrove⟩
    cases hv : proposalVotes[participant]? with
    | none => simp [hv] at happrove
    | some vote => exact ⟨vote, ⟨proposalId, proposalVotes, hp, hv⟩, by simpa [hv] using happrove⟩
  · rintro ⟨vote, ⟨proposalId, proposalVotes, hp, hv⟩, happrove⟩
    exact ⟨proposalId, proposalVotes, hp, by simp [hv, happrove]⟩

/-! ### Allowed commitments -/

section Allowed

variable {K : Type} (A : Arith K) (voting : Voting K) (rules : DecisionPolicyRules)
  (votes : ExtTreeMap String (ExtTreeMap String Vote)) (schemaVersion : ℕ)
  (participants : List String)

/-- The vote carries the outcome. -/
def Carried (outcomePositive : Bool) : Prop :=
  if outcomePositive then
    match verdict A voting votes participants with
    | .passed => True
    | .failed => False
    | .noVotes => schemaVersion < 3 ∧ rules.commitment.requireVoteQuorum = false
  else
    match verdict A voting votes participants with
    | .passed =>
      rules.commitment.allowDeclineOverApproval = true ∧ 0 < decisiveRejects A voting votes
    | .failed => 0 < decisiveRejects A voting votes
    | .noVotes => False

/-- What the ballots have to do with a commitment: the quorum, and the vote. -/
def VotesAllow (outcomePositive : Bool) : Prop :=
  (rules.commitment.requireVoteQuorum = true →
      quorumMet A voting (countUniqueVoters votes) participants.length = true)
    ∧ (voting.algorithm ≠ "none" →
      Carried A voting rules votes schemaVersion participants outcomePositive)

variable (render : Rendering) (state : State)

/-- A commitment is allowed: the objections authorize it, or no check stands in its way. -/
def Allowed (outcomePositive : Bool) : Prop :=
  objectionAuthorizedDecline rules state outcomePositive = true
    ∨ (checkEvaluations render rules state).deny = []
      ∧ (checkVeto rules state outcomePositive).deny = []
      ∧ VotesAllow A voting rules state.votes schemaVersion participants outcomePositive

/-- The evaluation of a decision commitment, with the numbers of its rules read in `K`. -/
def AllowedUnder {K : Type} (A : Arith K) (read : Float → K) (schemas : RuleSchemas)
    (render : Rendering) (policy : PolicyDefinition) (state : State) (participants : List String)
    (outcomePositive : Bool) : Prop :=
  ∃ rules, schemas.decision policy.rules = .ok rules ∧ Evaluable render policy rules ∧
    Allowed A (rules.voting.read read) rules policy.schemaVersion participants render state
      outcomePositive

end Allowed

/-! ### Doubles -/

section Doubles

variable {render : Rendering} {rules : DecisionPolicyRules} {state : State} {schemaVersion : ℕ}
  {participants : List String} (voting : VotingRules)

lemma checkQuorum_eq (voters total : ℕ) :
    checkQuorum voting.quorum.quorumType voting.quorum.value voters total
      = quorumMet .float (voting.read id) voters total := rfl

lemma isDecisive_eq (vote : Vote) :
    isDecisive vote = !(vote.vote != "APPROVE" && vote.vote != "REJECT") := by
  simp [isDecisive, bne]

variable (votes : ExtTreeMap String (ExtTreeMap String Vote))

lemma computeWeightedVotes_eq :
    computeWeightedVotes votes voting.weights = weightedVotes .float (voting.read id) votes := by
  unfold computeWeightedVotes weightedVotes
  congr 1
  funext sums ballot
  unfold addWeight
  rw [isDecisive_eq]
  cases ballot.2.vote != "APPROVE" && ballot.2.vote != "REJECT" <;> rfl

lemma countDecisiveRejects_eq :
    countDecisiveRejects votes voting.algorithm voting.weights
      = decisiveRejects .float (voting.read id) votes := by
  unfold countDecisiveRejects decisiveRejects
  change _ = (ballots votes).countP fun b => b.2.vote == "REJECT" &&
    (voting.algorithm != "weighted" || decide (0 < weightOf voting.weights b.1))
  cases voting.algorithm != "weighted" <;> simp [aggregateVotes]

/-- What a result is, without its words. -/
def VotingResult.verdict : VotingResult → Verdict
  | .Passed _ => .passed
  | .Failed _ => .failed
  | .NoVotes => .noVotes

@[simp] lemma VotingResult.verdict_passed (reason : String) :
    (Passed reason).verdict = .passed := rfl

@[simp] lemma VotingResult.verdict_failed (reason : String) :
    (Failed reason).verdict = .failed := rfl

@[simp] lemma VotingResult.verdict_noVotes : NoVotes.verdict = .noVotes := rfl

lemma compareRatio_verdict (name subject : String) (ratio threshold : Float) :
    (compareRatio render name subject ratio threshold).verdict = meets .float threshold ratio := by
  unfold compareRatio meets
  change _ = if decide (threshold ≤ ratio) = true then _ else _
  by_cases h : threshold ≤ ratio <;> simp [h]

lemma checkVotingAlgorithm_verdict (participants : List String) :
    (checkVotingAlgorithm render voting votes participants).verdict
      = verdict .float (voting.read id) votes participants := by
  unfold checkVotingAlgorithm verdict
  rw [computeWeightedVotes_eq]
  simp only [apply_ite VotingResult.verdict, compareRatio_verdict, VotingResult.verdict_passed,
    VotingResult.verdict_failed, VotingResult.verdict_noVotes]
  simp only [VotingRules.read, Arith.float, decide_eq_true_eq, id, ite_self]
  rfl

lemma approveOn_deny_nil {result : VotingResult} :
    (approveOn rules schemaVersion result).deny = [] ↔
      match result.verdict with
      | .passed => True
      | .failed => False
      | .noVotes => schemaVersion < 3 ∧ rules.commitment.requireVoteQuorum = false := by
  cases result with
  | Passed reason => simp [approveOn]
  | Failed reason => simp [approveOn]
  | NoVotes =>
    unfold approveOn
    split_ifs <;> simp_all

lemma declineOn_deny_nil {result : VotingResult} :
    (declineOn rules state result).deny = [] ↔
      match result.verdict with
      | .passed =>
        rules.commitment.allowDeclineOverApproval = true ∧
          0 < decisiveRejects .float (rules.voting.read id) state.votes
      | .failed => 0 < decisiveRejects .float (rules.voting.read id) state.votes
      | .noVotes => False := by
  rw [← countDecisiveRejects_eq]
  cases result with
  | Passed reason =>
    unfold declineOn
    dsimp only
    split_ifs <;> simp_all
  | Failed reason =>
    unfold declineOn
    split_ifs <;> simp_all
  | NoVotes => simp [declineOn]

lemma checkVoteQuorum_deny_nil :
    (checkVoteQuorum render rules state participants).deny = [] ↔
      (rules.commitment.requireVoteQuorum = true →
        quorumMet .float (rules.voting.read id) (countUniqueVoters state.votes)
          participants.length = true) := by
  unfold checkVoteQuorum
  dsimp only
  rw [checkQuorum_eq]
  split_ifs <;> simp_all

/-- What is not denied is allowed over doubles. -/
lemma findings_deny_nil {outcomePositive : Bool} :
    (findings render rules state schemaVersion participants outcomePositive).deny = [] ↔
      Allowed .float (rules.voting.read id) rules schemaVersion participants render state
        outcomePositive := by
  unfold Allowed
  cases hauth : objectionAuthorizedDecline rules state outcomePositive with
  | true => simp [findings_of_authorized hauth]
  | false =>
    simp only [findings, hauth, Findings.deny_append, List.append_eq_nil_iff,
      Bool.false_eq_true, if_false, false_or, checkVoteQuorum_deny_nil, VotesAllow, and_assoc]
    refine and_congr_right fun _ => and_congr_right fun _ => and_congr_right fun _ => ?_
    by_cases hnone : rules.voting.algorithm = "none"
    · simp [checkVotes, hnone, VotingRules.read]
    · rw [checkVotes_deny_nil hnone hauth]
      dsimp only
      rw [approveOn_deny_nil, declineOn_deny_nil, checkVotingAlgorithm_verdict]
      exact ⟨fun h _ => h, fun h => h hnone⟩

/-- **Over doubles this is the evaluator.** -/
theorem evaluate_allows_iff {schemas : RuleSchemas} {policy : PolicyDefinition}
    {outcomePositive : Bool} :
    (evaluateDecisionCommitmentOutcome schemas render policy state participants
        outcomePositive).Allows ↔
      AllowedUnder .float id schemas render policy state participants outcomePositive := by
  constructor
  · intro h
    obtain ⟨-, rules, hrules, -⟩ := withRules_allows.mp h
    obtain ⟨hevaluable, hfindings⟩ := (evaluate_allows hrules).mp h
    exact ⟨rules, hrules, hevaluable, findings_deny_nil.mp hfindings⟩
  · rintro ⟨rules, hrules, hevaluable, hallowed⟩
    exact (evaluate_allows hrules).mpr ⟨hevaluable, findings_deny_nil.mpr hallowed⟩

end Doubles

end Decision

end MacpRuntime
