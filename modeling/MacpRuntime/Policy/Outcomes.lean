import MacpRuntime.Policy.Evaluator

/-!
Which outcomes a decision policy allows: a vote does not carry both outcomes, unless the policy lets
a decline override an approval (`Decision.not_both_outcomes`), and a decline needs a decisive
rejection or a standing veto (`Decision.decline_backed`).  `evaluate_outcomes`: both, and what a
standing veto decides, for the evaluator as a whole.
-/

namespace MacpRuntime.Decision

open Std

variable {schemas : RuleSchemas} {render : Rendering} {rules : DecisionPolicyRules}
  {state : State} {schemaVersion : ℕ} {participants : List String}

/-! ### Vetoes and rejections -/

/-- Enough critical objections stand for a veto. -/
def VetoStands (rules : DecisionPolicyRules) (state : State) : Prop :=
  rules.objectionHandling.criticalSeverityVetoes = true ∧
    rules.objectionHandling.vetoThreshold ≤
      (state.objections.filter (·.severity == "critical")).length

/-- Some voter rejected some proposal, and the algorithm counts the vote. -/
def DecisiveReject (rules : DecisionPolicyRules) (state : State) : Prop :=
  ∃ (proposalId : String) (proposalVotes : ExtTreeMap String Vote) (voter : String)
    (vote : Vote),
    state.votes[proposalId]? = some proposalVotes ∧ proposalVotes[voter]? = some vote ∧
    vote.vote = "REJECT" ∧
    (rules.voting.algorithm = "weighted" → 0 < rules.voting.weights[voter]?.getD 0)

lemma criticalVeto_isSome : (criticalVeto rules state).isSome ↔ VetoStands rules state := by
  simp only [criticalVeto, VetoStands, blockingObjectors, List.length_map]
  split <;> simp_all

lemma criticalVeto_of_not (h : ¬ VetoStands rules state) : criticalVeto rules state = none := by
  rw [← Option.not_isSome_iff_eq_none, criticalVeto_isSome]
  exact h

variable {outcomePositive : Bool} {result : VotingResult} {policy : PolicyDefinition}

/-- The decline of a standing veto, and no other commitment, is authorized by objections. -/
lemma objectionAuthorizedDecline_iff :
    objectionAuthorizedDecline rules state outcomePositive = true ↔
      VetoStands rules state ∧ outcomePositive = false ∧
        rules.objectionHandling.criticalObjectionAction = .FinalizeDecline := by
  simp [objectionAuthorizedDecline, criticalVeto_isSome, and_assoc]

lemma mem_ballots {votes : ExtTreeMap String (ExtTreeMap String Vote)} {voter : String}
    {vote : Vote} :
    (voter, vote) ∈ ballots votes ↔
      ∃ (proposalId : String) (proposalVotes : ExtTreeMap String Vote),
        votes[proposalId]? = some proposalVotes ∧ proposalVotes[voter]? = some vote := by
  simp [ballots]

/-- The guard on declines counts exactly the decisive rejections. -/
lemma countDecisiveRejects_pos :
    0 < countDecisiveRejects state.votes rules.voting.algorithm rules.voting.weights ↔
      DecisiveReject rules state := by
  have hcount : 0 < countDecisiveRejects state.votes rules.voting.algorithm rules.voting.weights ↔
      ∃ voter vote, (voter, vote) ∈ ballots state.votes ∧ vote.vote = "REJECT" ∧
        (rules.voting.algorithm = "weighted" → 0 < weightOf rules.voting.weights voter) := by
    by_cases hw : rules.voting.algorithm = "weighted" <;>
      simp [countDecisiveRejects, aggregateVotes, hw, List.countP_pos_iff]
  rw [hcount]
  constructor
  · rintro ⟨voter, vote, hmem, hreject, hweight⟩
    obtain ⟨proposalId, proposalVotes, hp, hv⟩ := mem_ballots.mp hmem
    exact ⟨proposalId, proposalVotes, voter, vote, hp, hv, hreject, hweight⟩
  · rintro ⟨proposalId, proposalVotes, voter, vote, hp, hv, hreject, hweight⟩
    exact ⟨voter, vote, mem_ballots.mpr ⟨proposalId, proposalVotes, hp, hv⟩, hreject, hweight⟩

/-! ### The checks -/

/-- A standing veto denies, except for the decline it finalizes. -/
lemma checkVeto_deny_nil :
    (checkVeto rules state outcomePositive).deny = [] ↔
      ¬ VetoStands rules state ∨
        (outcomePositive = false ∧
          rules.objectionHandling.criticalObjectionAction = .FinalizeDecline) := by
  by_cases hveto : VetoStands rules state
  · obtain ⟨⟨detail, objectors⟩, hsome⟩ :=
      Option.isSome_iff_exists.mp (criticalVeto_isSome.mpr hveto)
    cases haction : rules.objectionHandling.criticalObjectionAction <;> cases outcomePositive <;>
      simp [checkVeto, hsome, haction, hveto]
  · simp [checkVeto, criticalVeto_of_not hveto, hveto]

/-- One result carries both outcomes only where a decline may override an approval. -/
lemma allowDeclineOverApproval_of_both (happrove : (approveOn rules schemaVersion result).deny = [])
    (hdecline : (declineOn rules state result).deny = []) :
    rules.commitment.allowDeclineOverApproval = true := by
  cases result with
  | Passed reason =>
    by_contra hflag
    rw [declineOn, if_pos (by simpa using hflag)] at hdecline
    cases hdecline
  | Failed reason => simp [approveOn] at happrove
  | NoVotes => simp [declineOn] at hdecline

/-- No result carries a decline without a decisive rejection. -/
lemma decisiveReject_of_declineOn (hdecline : (declineOn rules state result).deny = []) :
    DecisiveReject rules state := by
  rw [← countDecisiveRejects_pos]
  by_contra hnone
  cases result with
  | Passed reason =>
    rw [declineOn, if_neg hnone] at hdecline
    split at hdecline <;> cases hdecline
  | Failed reason => simp [declineOn, hnone] at hdecline
  | NoVotes => simp [declineOn] at hdecline

lemma checkVotes_deny_nil (halgorithm : rules.voting.algorithm ≠ "none")
    (hvotes : objectionAuthorizedDecline rules state outcomePositive = false) :
    (checkVotes render rules state schemaVersion participants outcomePositive).deny = [] ↔
      let result := checkVotingAlgorithm render rules.voting state.votes participants
      if outcomePositive then (approveOn rules schemaVersion result).deny = []
      else (declineOn rules state result).deny = [] := by
  cases outcomePositive <;> simp [checkVotes, halgorithm, hvotes]

/-- Nothing is denied in a decline that the objections authorize. -/
lemma findings_of_authorized
    (hauth : objectionAuthorizedDecline rules state outcomePositive = true) :
    (findings render rules state schemaVersion participants outcomePositive).deny = [] := by
  obtain ⟨-, hnegative, haction⟩ := objectionAuthorizedDecline_iff.mp hauth
  have hveto : (checkVeto rules state outcomePositive).deny = [] :=
    checkVeto_deny_nil.mpr (.inr ⟨hnegative, haction⟩)
  have hvotes : (checkVotes render rules state schemaVersion participants outcomePositive).deny
      = [] := by
    unfold checkVotes
    split <;> rfl
  simp [findings, hauth, hveto, hvotes]

/-! ### Outcomes -/

/-- A vote does not carry both outcomes. -/
lemma not_both_outcomes (halgorithm : rules.voting.algorithm ≠ "none")
    (hflag : rules.commitment.allowDeclineOverApproval = false)
    (happrove : (findings render rules state schemaVersion participants true).deny = [])
    (hdecline : (findings render rules state schemaVersion participants false).deny = []) :
    False := by
  simp only [findings, Findings.deny_append, List.append_eq_nil_iff] at happrove hdecline
  obtain ⟨⟨⟨-, hveto⟩, -⟩, hvotes⟩ := happrove
  -- the approval shows that no veto stands, so that both outcomes rest on the vote
  have hno : ¬ VetoStands rules state := by
    rcases checkVeto_deny_nil.mp hveto with h | h
    · exact h
    · simp at h
  have hunexcused (b : Bool) : objectionAuthorizedDecline rules state b = false := by
    rw [← Bool.not_eq_true, objectionAuthorizedDecline_iff]
    exact fun h => hno h.1
  rw [checkVotes_deny_nil halgorithm (hunexcused true)] at hvotes
  have hdeclined := (checkVotes_deny_nil halgorithm (hunexcused false)).mp hdecline.2
  have := allowDeclineOverApproval_of_both hvotes hdeclined
  simp [hflag] at this

/-- A decline rests on a decisive rejection or on a standing veto. -/
lemma decline_backed (halgorithm : rules.voting.algorithm ≠ "none")
    (hdecline : (findings render rules state schemaVersion participants false).deny = []) :
    DecisiveReject rules state ∨
      (VetoStands rules state ∧
        rules.objectionHandling.criticalObjectionAction = .FinalizeDecline) := by
  cases hauth : objectionAuthorizedDecline rules state false with
  | true =>
    obtain ⟨hveto, -, haction⟩ := objectionAuthorizedDecline_iff.mp hauth
    exact .inr ⟨hveto, haction⟩
  | false =>
    simp only [findings, Findings.deny_append, List.append_eq_nil_iff] at hdecline
    exact .inl (decisiveReject_of_declineOn
      ((checkVotes_deny_nil halgorithm hauth).mp hdecline.2))

lemma vetoStands_outcome (hveto : VetoStands rules state)
    (hallowed :
      (findings render rules state schemaVersion participants outcomePositive).deny = []) :
    outcomePositive = false ∧
      rules.objectionHandling.criticalObjectionAction = .FinalizeDecline := by
  simp only [findings, Findings.deny_append, List.append_eq_nil_iff] at hallowed
  exact (checkVeto_deny_nil.mp hallowed.1.1.2).resolve_left (not_not.mpr hveto)

/-- The descriptor is one the evaluator evaluates: its schema version is supported and its
values are in range. -/
def Evaluable (render : Rendering) (policy : PolicyDefinition) (rules : DecisionPolicyRules) :
    Prop :=
  policy.schemaVersion ∈ supportedSchemaVersions ∧ decisionValueDomainError render rules = none

lemma evaluate_allows (hrules : schemas.decision policy.rules = .ok rules) :
    (evaluateDecisionCommitmentOutcome schemas render policy state participants
        outcomePositive).Allows ↔
      Evaluable render policy rules ∧
        (findings render rules state policy.schemaVersion participants outcomePositive).deny
          = [] := by
  unfold evaluateDecisionCommitmentOutcome Evaluable
  rw [withRules_allows]
  cases hdomain : decisionValueDomainError render rules <;> simp [hrules, hdomain]

lemma one_le_vetoThreshold (h : Evaluable render policy rules) :
    1 ≤ rules.objectionHandling.vetoThreshold := by
  by_contra hzero
  have hlt : rules.objectionHandling.vetoThreshold < 1 := by omega
  simp [Evaluable, decisionValueDomainError, hlt] at h

/-- The outcomes of a decision.  Outside `none` the evaluator does not allow both, unless a
decline may override an approval, and a decline rests on a decisive rejection or on a standing
veto.  A standing veto denies every approval; it lets a decline through where the policy
finalizes it, provided the descriptor can be evaluated at all, and denies it otherwise. -/
theorem evaluate_outcomes (schemas : RuleSchemas) (render : Rendering) (policy : PolicyDefinition)
    (rules : DecisionPolicyRules) (hrules : schemas.decision policy.rules = .ok rules)
    (state : State) (participants : List String) :
    let allows (outcomePositive : Bool) : Prop :=
      (evaluateDecisionCommitmentOutcome schemas render policy state participants
        outcomePositive).Allows
    let action := rules.objectionHandling.criticalObjectionAction
    (rules.voting.algorithm ≠ "none" →
      (rules.commitment.allowDeclineOverApproval = false → ¬ (allows true ∧ allows false)) ∧
      (allows false →
        DecisiveReject rules state ∨
          (1 ≤ rules.objectionHandling.vetoThreshold ∧ VetoStands rules state ∧
            action = .FinalizeDecline))) ∧
    (VetoStands rules state →
      ¬ allows true ∧
      (action = .FinalizeDecline → Evaluable render policy rules → allows false) ∧
      (action = .Deny ∨ action = .Hold → ¬ allows false)) := by
  intro allows action
  refine ⟨fun halgorithm => ⟨fun hflag ⟨happrove, hdecline⟩ => ?_, fun hdecline => ?_⟩,
    fun hveto => ⟨fun happrove => ?_, fun haction hevaluable => ?_, fun haction hdecline => ?_⟩⟩
  · exact not_both_outcomes halgorithm hflag ((evaluate_allows hrules).mp happrove).2
      ((evaluate_allows hrules).mp hdecline).2
  · obtain ⟨hevaluable, hfindings⟩ := (evaluate_allows hrules).mp hdecline
    exact (decline_backed halgorithm hfindings).imp_right fun h =>
      ⟨one_le_vetoThreshold hevaluable, h⟩
  · have := vetoStands_outcome hveto ((evaluate_allows hrules).mp happrove).2
    simp at this
  · refine (evaluate_allows hrules).mpr ⟨hevaluable, findings_of_authorized ?_⟩
    exact objectionAuthorizedDecline_iff.mpr ⟨hveto, rfl, haction⟩
  · have hfinal := (vetoStands_outcome hveto ((evaluate_allows hrules).mp hdecline).2).2
    rcases haction with h | h <;> simp [action, h] at hfinal

/-! ### A veto at work -/

/-- Majority vote, with a veto by one critical objection that finalizes a decline. -/
def vetoRules : DecisionPolicyRules where
  voting := ⟨"majority", 0.5, .default, ∅⟩
  objectionHandling := ⟨true, 1, .FinalizeDecline⟩
  evaluation := .default
  commitment := .default

/-- The veto rules, under a schema version. -/
def vetoPolicy (schemaVersion : ℕ) : PolicyDefinition where
  policyId := "policy.veto"
  mode := "macp.mode.decision.v1"
  description := ""
  rules := .object [("voting", .object [("algorithm", .string "majority")]),
    ("objection_handling", .object [("critical_severity_vetoes", .bool true),
      ("critical_objection_action", .string "finalize_decline")])]
  schemaVersion := schemaVersion

/-- Readers that know the veto rules. -/
def vetoSchemas : RuleSchemas := { RuleSchemas.plain with decision := fun _ => .ok vetoRules }

/-- Nobody has voted, and one participant objects. -/
def vetoedState : State where
  proposals := ∅
  evaluations := []
  objections := [⟨"p1", "unsafe", "critical", "agent://fraud"⟩]
  votes := ∅
  phase := .Evaluation

lemma vetoStands_sample : VetoStands vetoRules vetoedState := ⟨rfl, by decide⟩

lemma evaluable_sample : Evaluable .plain (vetoPolicy 3) vetoRules :=
  ⟨by decide, by decide +kernel⟩

/-- The veto denies the approval and lets the decline through, without a single vote. -/
theorem evaluate_outcomes_veto :
    vetoSchemas.decision (vetoPolicy 3).rules = .ok vetoRules ∧ VetoStands vetoRules vetoedState ∧
    ¬ (evaluateDecisionCommitmentOutcome vetoSchemas .plain (vetoPolicy 3) vetoedState
      ["agent://fraud", "agent://growth"] true).Allows ∧
    (evaluateDecisionCommitmentOutcome vetoSchemas .plain (vetoPolicy 3) vetoedState
      ["agent://fraud", "agent://growth"] false).Allows := by
  have h := (evaluate_outcomes vetoSchemas .plain (vetoPolicy 3) vetoRules rfl vetoedState
    ["agent://fraud", "agent://growth"]).2 vetoStands_sample
  exact ⟨rfl, vetoStands_sample, h.1, h.2.1 rfl evaluable_sample⟩

/-- The same veto under a schema version the evaluator does not support: the decline it should
finalize is denied. -/
theorem vetoed_decline_denied :
    vetoSchemas.decision (vetoPolicy 4).rules = .ok vetoRules ∧ VetoStands vetoRules vetoedState ∧
    vetoRules.objectionHandling.criticalObjectionAction = .FinalizeDecline ∧
    ¬ (evaluateDecisionCommitmentOutcome vetoSchemas .plain (vetoPolicy 4) vetoedState
      ["agent://fraud", "agent://growth"] false).Allows := by
  refine ⟨rfl, vetoStands_sample, rfl, fun h => ?_⟩
  have hversion := ((evaluate_allows rfl).mp h).1.1
  revert hversion
  decide

end MacpRuntime.Decision
