import MacpRuntime.Policy.Monotone

/-!
Observers cannot influence a decision: ballots that weigh nothing change no outcome.  In doubles
too, a ballot without weight adds nothing, because the sums are never negative zeros
(`foldl_addWeight_filter`), so **an outcome is allowed before a change to observers' ballots if and
only if it is allowed after it** (`observers_without_influence`).
-/

namespace MacpRuntime.Decision

variable {votes votes' : Std.ExtTreeMap String (Std.ExtTreeMap String Vote)}

/-! ### Ballots of a kind -/

/-- The same ballots of some kind. -/
def Agree (kind : String → Vote → Bool)
    (votes votes' : Std.ExtTreeMap String (Std.ExtTreeMap String Vote)) : Prop :=
  ∀ proposalId voter vote, kind voter vote = true →
    (Table.get votes proposalId voter = some vote ↔ Table.get votes' proposalId voter = some vote)

variable {kind : String → Vote → Bool}

/-- Ballots of the kind are listed alike. -/
lemma filter_ballots_eq (h : Agree kind votes votes') {p : String × Vote → Bool}
    (hp : ∀ b, p b = true → kind b.1 b.2 = true) :
    (ballots votes).filter p = (ballots votes').filter p := by
  rw [ballots_eq, ballots_eq, List.filter_map, List.filter_map]
  congr 1
  exact Table.filter_entries_eq fun proposalId voter vote hkeep =>
    h proposalId voter vote (hp (voter, vote) hkeep)

/-- So they are counted alike. -/
lemma countP_ballots_eq (h : Agree kind votes votes') {p : String × Vote → Bool}
    (hp : ∀ b, p b = true → kind b.1 b.2 = true) :
    (ballots votes).countP p = (ballots votes').countP p := by
  rw [List.countP_eq_length_filter, List.countP_eq_length_filter, filter_ballots_eq h hp]

/-! ### Decisive ballots -/

lemma approvedBy_congr (h : Agree (fun _ => isDecisive) votes votes') :
    approvedBy votes = approvedBy votes' := by
  have hmem (p : String) (vote : Vote) (happrove : vote.vote = "APPROVE") :
      (p, vote) ∈ ballots votes ↔ (p, vote) ∈ ballots votes' := by
    have hlist := filter_ballots_eq h (p := fun b => isDecisive b.2) fun _ => id
    have := congrArg (fun l => (p, vote) ∈ l) hlist
    simpa [isDecisive, happrove] using this
  funext p
  rw [Bool.eq_iff_iff, approvedBy_iff, approvedBy_iff]
  exact exists_congr fun vote => and_congr_left fun happrove => hmem p vote happrove

lemma aggregateVotes_congr (h : Agree (fun _ => isDecisive) votes votes') :
    (aggregateVotes votes).approve = (aggregateVotes votes').approve
      ∧ (aggregateVotes votes).reject = (aggregateVotes votes').reject :=
  ⟨countP_ballots_eq h fun b hb => by simp_all [isDecisive],
    countP_ballots_eq h fun b hb => by simp_all [isDecisive]⟩

/-- A vote that is not weighted depends on the decisive ballots alone. -/
lemma verdict_congr {K : Type} {A : Arith K} {voting : Voting K} {participants : List String}
    (halgorithm : voting.algorithm ≠ "weighted") (h : Agree (fun _ => isDecisive) votes votes') :
    verdict A voting votes participants = verdict A voting votes' participants := by
  obtain ⟨happrove, hreject⟩ := aggregateVotes_congr h
  have htotal : (aggregateVotes votes).nonAbstainTotal = (aggregateVotes votes').nonAbstainTotal :=
    congrArg₂ (· + ·) happrove hreject
  unfold verdict
  simp only [happrove, hreject, htotal, approvedBy_congr h, beq_iff_eq, halgorithm, if_false]

lemma decisiveRejects_congr {K : Type} {A : Arith K} {voting : Voting K}
    (halgorithm : voting.algorithm ≠ "weighted") (h : Agree (fun _ => isDecisive) votes votes') :
    decisiveRejects A voting votes = decisiveRejects A voting votes' :=
  countP_ballots_eq h fun b hb => by simp_all [isDecisive]

/-! ### Weights -/

section Weights

variable {voting : Voting Float} {listed : String → Bool}

/-- Weights that are never negative zeros, and are zero outside of the electorate. -/
structure Electorate (voting : Voting Float) (listed : String → Bool) : Prop where
  unsigned : ∀ voter, Double.Unsigned (voting.weight voter)
  unlisted : ∀ voter, listed voter = false → voting.weight voter = 0

/-- Ballots that count in a weighted vote. -/
def counts (listed : String → Bool) (voter : String) (vote : Vote) : Bool :=
  isDecisive vote && listed voter

section

variable (h : Electorate voting listed)

include h

/-- One ballot keeps the sums unsigned, and leaves them alone if it does not count. -/
lemma addWeight_unsigned {sums : Float × Float}
    (hsums : Double.Unsigned sums.1 ∧ Double.Unsigned sums.2) (b : String × Vote) :
    (Double.Unsigned (addWeight .float voting sums b).1
        ∧ Double.Unsigned (addWeight .float voting sums b).2)
      ∧ (counts listed b.1 b.2 = false → addWeight .float voting sums b = sums) := by
  have hweight := h.unsigned b.1
  unfold addWeight counts
  simp only [Arith.float]
  cases hd : isDecisive b.2 with
  | false => exact ⟨hsums, fun _ => rfl⟩
  | true =>
    simp only [if_true, Bool.true_and]
    refine ⟨⟨?_, hsums.2.add hweight⟩, fun hlisted => ?_⟩
    · split_ifs
      · exact hsums.1.add hweight
      · exact hsums.1
    · rw [h.unlisted _ hlisted, Double.add_zero_of_unsigned hsums.1,
        Double.add_zero_of_unsigned hsums.2, ite_self]

/-- Only the ballots that count are summed up. -/
lemma foldl_addWeight_filter (l : List (String × Vote)) (sums : Float × Float)
    (hsums : Double.Unsigned sums.1 ∧ Double.Unsigned sums.2) :
    l.foldl (addWeight .float voting) sums
      = (l.filter fun b => counts listed b.1 b.2).foldl (addWeight .float voting) sums := by
  induction l generalizing sums with
  | nil => rfl
  | cons b l ih =>
    obtain ⟨hunsigned, hsame⟩ := addWeight_unsigned h hsums b
    rw [List.foldl_cons, List.filter_cons]
    cases hcounts : counts listed b.1 b.2 with
    | true =>
      rw [if_pos rfl, List.foldl_cons]
      exact ih _ hunsigned
    | false =>
      rw [if_neg (by decide), hsame hcounts]
      exact ih _ hsums

lemma weightedVotes_congr (hagree : Agree (counts listed) votes votes') :
    weightedVotes .float voting votes = weightedVotes .float voting votes' := by
  have hzero : Double.Unsigned (Arith.float.ofNat 0) := Double.unsigned_zero
  have hfold (l : List (String × Vote)) :=
    foldl_addWeight_filter h l (Arith.float.ofNat 0, Arith.float.ofNat 0) ⟨hzero, hzero⟩
  unfold weightedVotes
  rw [hfold (ballots votes), hfold (ballots votes'),
    filter_ballots_eq (p := fun b => counts listed b.1 b.2) hagree fun _ => id]

end

/-- Abstentions are not summed up. -/
lemma foldl_addWeight_of_abstain {l : List (String × Vote)} (h : ∀ b ∈ l, isDecisive b.2 = false)
    (sums : Float × Float) : l.foldl (addWeight .float voting) sums = sums := by
  induction l with
  | nil => rfl
  | cons b l ih =>
    obtain ⟨hb, hl⟩ := List.forall_mem_cons.mp h
    rw [List.foldl_cons, addWeight, hb]
    exact ih hl

section

variable (halgorithm : voting.algorithm = "weighted")

include halgorithm

/-- An empty tally sums up to nothing, so that a weighted vote is read off its sums. -/
lemma verdict_weighted {participants : List String} :
    verdict .float voting votes participants =
      let sums := weightedVotes .float voting votes
      if Arith.float.lt sums.2 (Arith.float.ofNat 0) then .failed
      else if Arith.float.eq sums.2 (Arith.float.ofNat 0) then .noVotes
      else meets .float voting.threshold (Arith.float.div sums.1 sums.2) := by
  unfold verdict
  rw [halgorithm]
  dsimp only
  by_cases hzero : (aggregateVotes votes).nonAbstainTotal = 0
  · have hnone : ∀ b ∈ ballots votes, isDecisive b.2 = false := by
      obtain ⟨happrove, hreject⟩ := Nat.add_eq_zero_iff.mp hzero
      intro b hb
      have ha := List.countP_eq_zero.mp happrove b hb
      have hr := List.countP_eq_zero.mp hreject b hb
      simp_all [isDecisive]
    rw [if_pos hzero, weightedVotes, foldl_addWeight_of_abstain hnone]
    rfl
  · rw [if_neg hzero]
    rfl

/-- A weighted vote depends on the decisive ballots of the electorate alone. -/
lemma verdict_weighted_congr (h : Electorate voting listed)
    (hagree : Agree (counts listed) votes votes') {participants : List String} :
    verdict .float voting votes participants = verdict .float voting votes' participants := by
  rw [verdict_weighted halgorithm, verdict_weighted halgorithm, weightedVotes_congr h hagree]

lemma decisiveRejects_weighted_congr (h : Electorate voting listed)
    (hagree : Agree (counts listed) votes votes') :
    decisiveRejects .float voting votes = decisiveRejects .float voting votes' := by
  refine countP_ballots_eq hagree fun b hb => ?_
  rw [Bool.and_eq_true, halgorithm] at hb
  have hreject : isDecisive b.2 = true := by simp_all [isDecisive]
  cases hlisted : listed b.1 with
  | true => simp [counts, hreject, hlisted]
  | false =>
    rw [h.unlisted _ hlisted] at hb
    exact absurd hb.2 (by decide)

end

end Weights

/-! ### Observers -/

/-- The voter is in the electorate of the rules. -/
def Listed (voting : VotingRules) (voter : String) : Bool := voting.weights[voter]?.isSome

lemma electorate_of_valid {a : Admission} {raw : Json} {rules : DecisionPolicyRules}
    (h : validateDecision a.render raw rules = .ok ()) :
    Electorate (rules.voting.read id) (Listed rules.voting) := by
  refine ⟨fun voter => ?_, fun voter hlisted => ?_⟩
  · change Double.Unsigned (weightOf rules.voting.weights voter)
    unfold weightOf
    cases hw : rules.voting.weights[voter]? with
    | none => exact Double.unsigned_zero
    | some w =>
      have hmem := Std.ExtTreeMap.mem_toList_iff_getElem?_eq_some.mpr hw
      obtain ⟨hpos, hnan⟩ := (validateDecision_eq_ok h).2.1 _ hmem
      exact Double.unsigned_of_not_le hpos hnan
  · change weightOf rules.voting.weights voter = 0
    unfold weightOf
    rw [Option.isSome_eq_false_iff.mp hlisted |> Option.isNone_iff_eq_none.mp]
    rfl

/-- The ballots that count under the rules. -/
def kindOf (voting : VotingRules) (voter : String) (vote : Vote) : Bool :=
  isDecisive vote && (voting.algorithm != "weighted" || Listed voting voter)

variable {a : Admission} {raw : Json} {rules : DecisionPolicyRules} {schemaVersion : ℕ}
  {participants : List String} {outcomePositive : Bool}

/-- The vote carries the same outcomes when the ballots that count are the same. -/
lemma carried_congr (hvalid : validateDecision a.render raw rules = .ok ())
    (h : Agree (kindOf rules.voting) votes votes') :
    Carried .float (rules.voting.read id) rules votes schemaVersion participants outcomePositive ↔
      Carried .float (rules.voting.read id) rules votes' schemaVersion participants
        outcomePositive := by
  have hsame : verdict .float (rules.voting.read id) votes participants
        = verdict .float (rules.voting.read id) votes' participants
      ∧ decisiveRejects .float (rules.voting.read id) votes
        = decisiveRejects .float (rules.voting.read id) votes' := by
    by_cases halgorithm : rules.voting.algorithm = "weighted"
    · have hagree : Agree (counts (Listed rules.voting)) votes votes' :=
        fun proposalId voter vote hkind => h proposalId voter vote (by
          simpa [kindOf, counts, halgorithm] using hkind)
      have helectorate := electorate_of_valid hvalid
      exact ⟨verdict_weighted_congr halgorithm helectorate hagree,
        decisiveRejects_weighted_congr halgorithm helectorate hagree⟩
    · have hagree : Agree (fun _ => isDecisive) votes votes' :=
        fun proposalId voter vote hkind => h proposalId voter vote (by
          simpa [kindOf, halgorithm] using hkind)
      exact ⟨verdict_congr halgorithm hagree, decisiveRejects_congr halgorithm hagree⟩
  unfold Carried
  rw [hsame.1, hsame.2]

/-- The voters of every ballot, whatever it says. -/
lemma countUniqueVoters_congr
    (h : ∀ proposalId voter, (Table.get votes proposalId voter).isSome
      = (Table.get votes' proposalId voter).isSome) :
    countUniqueVoters votes = countUniqueVoters votes' := by
  have hvoters (vs : Std.ExtTreeMap String (Std.ExtTreeMap String Vote)) (voter : String) :
      voter ∈ (ballots vs).map (·.1) ↔
        ∃ proposalId, (Table.get vs proposalId voter).isSome = true := by
    simp only [ballots_eq, List.map_map, List.mem_map, Prod.exists, Function.comp_apply,
      Option.isSome_iff_exists, ← Table.mem_entries]
    aesop
  unfold countUniqueVoters
  rw [← List.card_toFinset, ← List.card_toFinset]
  congr 1
  ext voter
  rw [List.mem_toFinset, List.mem_toFinset, hvoters, hvoters]
  exact exists_congr fun proposalId => by rw [h proposalId voter]

end MacpRuntime.Decision

namespace MacpRuntime

open Decision

/-- The ballots of two states differ in what some voters said. -/
def DifferInValues (observer : String → Prop) (state state' : State) : Prop :=
  state' = { state with votes := state'.votes } ∧
    ∀ proposalId voter,
      (Table.get state.votes proposalId voter).isSome
          = (Table.get state'.votes proposalId voter).isSome
        ∧ (¬ observer voter →
          Table.get state.votes proposalId voter = Table.get state'.votes proposalId voter)

/-- The second state is the first one without some ballots of a kind. -/
def WithoutSome (removable : String → Vote → Prop) (state state' : State) : Prop :=
  state' = { state with votes := state'.votes } ∧
    ∀ proposalId voter,
      Table.get state'.votes proposalId voter = Table.get state.votes proposalId voter
        ∨ Table.get state'.votes proposalId voter = none
          ∧ ∃ vote, Table.get state.votes proposalId voter = some vote ∧ removable voter vote

/-- An outcome depends on the votes by the number of voters, if a quorum is required, and by the
ballots that count. -/
lemma evaluate_congr {a : Admission} {policy : PolicyDefinition} {rules : DecisionPolicyRules}
    (hvalid : validateDecision a.render policy.rules rules = .ok ())
    (hrules : a.schemas.decision policy.rules = .ok rules) {participants : List String}
    {outcomePositive : Bool} {state state' : State}
    (hstate : state' = { state with votes := state'.votes })
    (hvoters : rules.commitment.requireVoteQuorum = true →
      countUniqueVoters state.votes = countUniqueVoters state'.votes)
    (hagree : Agree (kindOf rules.voting) state.votes state'.votes) :
    (evaluateDecisionCommitmentOutcome a.schemas a.render policy state participants
        outcomePositive).Allows ↔
      (evaluateDecisionCommitmentOutcome a.schemas a.render policy state' participants
        outcomePositive).Allows := by
  rw [evaluate_allows hrules, evaluate_allows hrules, findings_deny_nil, findings_deny_nil]
  refine and_congr_right fun _ => ?_
  -- the other checks do not read the votes
  rw [hstate]
  unfold Allowed VotesAllow
  refine or_congr Iff.rfl (and_congr Iff.rfl (and_congr Iff.rfl (and_congr ?_ ?_)))
  · exact forall_congr' fun hreq => by rw [hvoters hreq]
  · exact forall_congr' fun _ => carried_congr hvalid hagree

/-- **Observers cannot influence a decision**: under a registered policy, with weighted votes, what
the voters outside of the electorate said changes no outcome; and where no vote quorum is required,
neither does removing abstentions, under any algorithm, or ballots of such voters. -/
theorem observers_without_influence {a : Admission}
    {entries : Std.ExtTreeMap String PolicyDefinition} {registry : PolicyRegistry}
    {policy : PolicyDefinition} (h : (a.registry entries).register policy = .ok registry)
    (hbinds : policy.Binds "macp.mode.decision.v1") {rules : DecisionPolicyRules}
    (hrules : a.schemas.decision policy.rules = .ok rules) (participants : List String)
    (outcomePositive : Bool) (state state' : State) :
    let observer (voter : String) : Prop :=
      rules.voting.algorithm = "weighted" ∧ rules.voting.weights[voter]? = none
    let allows (s : State) : Prop :=
      (evaluateDecisionCommitmentOutcome a.schemas a.render policy s participants
        outcomePositive).Allows
    (DifferInValues observer state state' → (allows state ↔ allows state'))
      ∧ (rules.commitment.requireVoteQuorum = false →
        WithoutSome (fun voter vote => vote.vote = "ABSTAIN" ∨ observer voter) state state' →
        (allows state ↔ allows state')) := by
  intro observer allows
  obtain ⟨rules', hrules', hvalid⟩ := (admissible_of_register h).decision hbinds
  cases hrules.symm.trans hrules'
  -- a ballot that counts is no observer's
  have hkind {voter : String} {vote : Vote} (hcounts : kindOf rules.voting voter vote = true) :
      ¬ (vote.vote = "ABSTAIN" ∨ observer voter) := by
    simp only [kindOf, isDecisive, Bool.and_eq_true, Bool.or_eq_true, beq_iff_eq,
      bne_iff_ne] at hcounts
    rintro (habstain | ⟨halgorithm, hunlisted⟩)
    · simp [habstain] at hcounts
    · simp [halgorithm, Listed, hunlisted] at hcounts
  refine ⟨?_, ?_⟩
  · rintro ⟨hstate, hdiffer⟩
    refine evaluate_congr hvalid hrules hstate (fun _ => ?_) fun proposalId voter vote hcounts => ?_
    · exact countUniqueVoters_congr fun proposalId voter => (hdiffer proposalId voter).1
    · rw [(hdiffer proposalId voter).2 fun hobserver => hkind hcounts (.inr hobserver)]
  · rintro hquorum ⟨hstate, hwithout⟩
    refine evaluate_congr hvalid hrules hstate (fun hreq => ?_)
      fun proposalId voter vote hcounts => ?_
    · rw [hquorum] at hreq
      cases hreq
    · rcases hwithout proposalId voter with hsame | ⟨hnone, old, hold, hremovable⟩
      · rw [hsame]
      · rw [hnone, hold]
        refine ⟨?_, fun heq => by cases heq⟩
        rintro ⟨⟩
        exact absurd hremovable (hkind hcounts)

/-- A vote in which only `alice` has a weight. -/
def weightedPolicy : PolicyDefinition where
  policyId := "policy.weighted"
  mode := "macp.mode.decision.v1"
  description := ""
  rules := .object [("voting", .object [("algorithm", .string "weighted"),
    ("weights", .object [("alice", .number (.posInt 1))])])]
  schemaVersion := 3

/-- The rules of that policy. -/
def weightedRules : DecisionPolicyRules := { DecisionPolicyRules.default with
  voting := { VotingRules.default with
    algorithm := "weighted"
    weights := (∅ : Std.ExtTreeMap String Float).insert "alice" 1 } }

lemma weightedPolicy_registered :
    ∃ registry, (Admission.plain.registry ∅).register weightedPolicy = .ok registry :=
  Except.exists_eq_ok_of_toBool (by decide +kernel)

lemma weightedPolicy_rules :
    Admission.plain.schemas.decision weightedPolicy.rules = .ok weightedRules := rfl

/-- What the observer `eve` says changes nothing. -/
theorem observers_without_influence_sample :
    (evaluateDecisionCommitmentOutcome Admission.plain.schemas Admission.plain.render weightedPolicy
        (votedAgain "eve" "REJECT" (votedState "alice" "APPROVE")) ["alice", "eve"] true).Allows ↔
      (evaluateDecisionCommitmentOutcome Admission.plain.schemas Admission.plain.render
        weightedPolicy (votedAgain "eve" "APPROVE" (votedState "alice" "APPROVE"))
        ["alice", "eve"] true).Allows := by
  obtain ⟨registry, h⟩ := weightedPolicy_registered
  refine (observers_without_influence h (.inl rfl) weightedPolicy_rules ["alice", "eve"] true _ _).1
    ⟨rfl, fun proposalId voter => ?_⟩
  simp only [votedAgain, Table.get_put]
  split_ifs with hkey
  · cases hkey
    exact ⟨rfl, fun hlisted => absurd ⟨rfl, by decide⟩ hlisted⟩
  · exact ⟨rfl, fun _ => rfl⟩

end MacpRuntime
