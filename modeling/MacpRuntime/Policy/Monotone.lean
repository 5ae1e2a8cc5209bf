import MacpRuntime.Policy.Soundness
import MacpRuntime.Policy.Tally

/-!
Votes are monotone: in exact arithmetic an approval stays allowed while ballots are added to it or
turned into it, and a decline likewise.

* `Recast`: one ballot is added, or one is replaced by another of the same voter;
* `share`: the weight of the ballots with one choice;
* `verdict_passed_mono`: a passed vote stays passed where ballots lean more to approval;
* `vote_monotone`: **the outcome stays allowed after any number of ballots in its favour**.
-/

namespace MacpRuntime.Decision

/-! ### Ballots -/

/-- One ballot of `voter` is added, or takes the place of another. -/
def Recast (voter : String) (vote : Vote) (l l' : List (String × Vote)) : Prop :=
  ∃ rest, l'.Perm ((voter, vote) :: rest) ∧ (l.Perm rest ∨ ∃ old, l.Perm ((voter, old) :: rest))

/-- Casting a ballot adds it, or replaces the voter's ballot on the proposal. -/
lemma recast_put (votes : Std.ExtTreeMap String (Std.ExtTreeMap String Vote))
    (proposalId voter : String) (vote : Vote) :
    Recast voter vote (ballots votes) (ballots (Table.put votes proposalId voter vote)) := by
  rw [ballots_eq, ballots_eq]
  refine ⟨(Table.others votes proposalId voter).map fun e => (e.1.2, e.2),
    (Table.entries_put_perm votes proposalId voter vote).map _, ?_⟩
  cases hget : Table.get votes proposalId voter with
  | none =>
    rw [Table.entries_of_get_none hget]
    exact .inl (.refl _)
  | some old => exact .inr ⟨old, (Table.entries_perm_of_get hget).map _⟩

/-! ### Shares -/

/-- The weight of the ballots with one choice. -/
def share (choice : String) (weight : String → ℚ) (l : List (String × Vote)) : ℚ :=
  (l.map fun b => if b.2.vote == choice then weight b.1 else 0).sum

section Share

variable {choice : String} {weight : String → ℚ} {l l' : List (String × Vote)} {voter : String}
  {vote : Vote}

lemma share_cons (b : String × Vote) (l : List (String × Vote)) :
    share choice weight (b :: l)
      = (if b.2.vote == choice then weight b.1 else 0) + share choice weight l := rfl

lemma share_perm (h : l.Perm l') : share choice weight l = share choice weight l' :=
  (h.map _).sum_eq

lemma share_nonneg (hw : ∀ v, 0 ≤ weight v) (l : List (String × Vote)) :
    0 ≤ share choice weight l := by
  refine List.sum_nonneg fun x hx => ?_
  obtain ⟨b, -, rfl⟩ := List.mem_map.mp hx
  split_ifs
  · exact hw _
  · exact le_rfl

/-- A ballot counts for its choice. -/
lemma Recast.share_le (h : Recast voter vote l l') (hw : ∀ v, 0 ≤ weight v)
    (hvote : vote.vote = choice) : share choice weight l ≤ share choice weight l' := by
  obtain ⟨rest, hl', hl⟩ := h
  have hv := hw voter
  rw [share_perm hl', share_cons, if_pos (by simpa using hvote)]
  rcases hl with hl | ⟨old, hl⟩
  · rw [share_perm hl]
    linarith
  · rw [share_perm hl, share_cons]
    split_ifs <;> linarith

/-- It counts for no other choice. -/
lemma Recast.share_ge (h : Recast voter vote l l') (hw : ∀ v, 0 ≤ weight v)
    (hvote : vote.vote ≠ choice) : share choice weight l' ≤ share choice weight l := by
  obtain ⟨rest, hl', hl⟩ := h
  have hv := hw voter
  rw [share_perm hl', share_cons, if_neg (by simpa using hvote)]
  rcases hl with hl | ⟨old, hl⟩
  · rw [share_perm hl]
    linarith
  · rw [share_perm hl, share_cons]
    split_ifs <;> linarith

/-- The weight of all decisive ballots. -/
def decisive (weight : String → ℚ) (l : List (String × Vote)) : ℚ :=
  share "APPROVE" weight l + share "REJECT" weight l

lemma decisive_perm (h : l.Perm l') : decisive weight l = decisive weight l' := by
  rw [decisive, decisive, share_perm h, share_perm h]

/-- A ballot has one choice, so its weight is counted once. -/
lemma decisive_cons (b : String × Vote) (l : List (String × Vote)) :
    decisive weight (b :: l) = (if isDecisive b.2 then weight b.1 else 0) + decisive weight l := by
  have hone : (if b.2.vote == "APPROVE" then weight b.1 else 0)
      + (if b.2.vote == "REJECT" then weight b.1 else 0)
        = if isDecisive b.2 then weight b.1 else 0 := by
    unfold isDecisive
    by_cases ha : b.2.vote = "APPROVE" <;> by_cases hr : b.2.vote = "REJECT" <;> simp_all
  rw [← hone, decisive, share_cons, share_cons, decisive]
  ring

/-- A decisive ballot takes no weight away. -/
lemma Recast.decisive_le (h : Recast voter vote l l') (hw : ∀ v, 0 ≤ weight v)
    (hvote : isDecisive vote = true) : decisive weight l ≤ decisive weight l' := by
  obtain ⟨rest, hl', hl⟩ := h
  have hv := hw voter
  rw [decisive_perm hl', decisive_cons, if_pos hvote]
  rcases hl with hl | ⟨old, hl⟩
  · rw [decisive_perm hl]
    linarith
  · rw [decisive_perm hl, decisive_cons]
    split_ifs <;> linarith

/-- A larger share on one side and a smaller one on the other make a larger ratio. -/
lemma ratio_le {a r a' r' : ℚ} (ha : 0 ≤ a) (hr' : 0 ≤ r') (hle : a ≤ a') (hge : r' ≤ r)
    (hpos : 0 < a + r) (hpos' : 0 < a' + r') : a / (a + r) ≤ a' / (a' + r') := by
  rw [div_le_div_iff₀ hpos hpos']
  have h₁ : a * r' ≤ a' * r' := mul_le_mul_of_nonneg_right hle hr'
  have h₂ : a' * r' ≤ a' * r := mul_le_mul_of_nonneg_left hge (ha.trans hle)
  linarith

end Share

/-! ### Counters -/

section Counters

variable {votes votes' : Std.ExtTreeMap String (Std.ExtTreeMap String Vote)} {voter : String}
  {vote : Vote} {voting : Voting ℚ}

lemma countP_eq_share (choice : String) (l : List (String × Vote)) :
    ((l.countP (·.2.vote == choice) : ℕ) : ℚ) = share choice (fun _ => 1) l := by
  induction l with
  | nil => rfl
  | cons b l ih =>
    rw [List.countP_cons, share_cons, ← ih]
    split_ifs <;> push_cast <;> ring

lemma approve_eq_share (votes : Std.ExtTreeMap String (Std.ExtTreeMap String Vote)) :
    ((aggregateVotes votes).approve : ℚ) = share "APPROVE" (fun _ => 1) (ballots votes) :=
  countP_eq_share _ _

lemma reject_eq_share (votes : Std.ExtTreeMap String (Std.ExtTreeMap String Vote)) :
    ((aggregateVotes votes).reject : ℚ) = share "REJECT" (fun _ => 1) (ballots votes) :=
  countP_eq_share _ _

lemma nonAbstainTotal_eq (votes : Std.ExtTreeMap String (Std.ExtTreeMap String Vote)) :
    ((aggregateVotes votes).nonAbstainTotal : ℚ) = decisive (fun _ => 1) (ballots votes) := by
  rw [decisive, ← approve_eq_share, ← reject_eq_share, ← Nat.cast_add]
  rfl

/-- The weighted sums are the shares. -/
lemma foldl_addWeight (l : List (String × Vote)) (x y : ℚ) :
    l.foldl (addWeight .exact voting) (x, y)
      = (x + share "APPROVE" voting.weight l, y + decisive voting.weight l) := by
  induction l generalizing x y with
  | nil => simp [share, decisive]
  | cons b l ih =>
    rw [List.foldl_cons, share_cons, decisive_cons]
    by_cases hd : isDecisive b.2 = true
    · by_cases ha : (b.2.vote == "APPROVE") = true
      · rw [addWeight, if_pos hd, if_pos ha, ih, if_pos hd, if_pos ha]
        simp only [Arith.exact]
        ring_nf
      · rw [addWeight, if_pos hd, if_neg ha, ih, if_pos hd, if_neg ha]
        simp only [Arith.exact]
        ring_nf
    · have ha : ¬ (b.2.vote == "APPROVE") = true := fun h => hd (by simp [isDecisive, h])
      rw [addWeight, if_neg hd, ih, if_neg hd, if_neg ha]
      ring_nf

lemma weightedVotes_exact :
    weightedVotes .exact voting votes
      = (share "APPROVE" voting.weight (ballots votes),
          decisive voting.weight (ballots votes)) := by
  rw [weightedVotes, foldl_addWeight]
  simp [Arith.exact]

lemma Recast.mem {l l' : List (String × Vote)} (h : Recast voter vote l l') {b : String × Vote}
    (hb : b ∈ l) : b ∈ l' ∨ b.1 = voter := by
  obtain ⟨rest, hl', hl⟩ := h
  rcases hl with hl | ⟨old, hl⟩
  · exact .inl (hl'.mem_iff.mpr (List.mem_cons_of_mem _ (hl.mem_iff.mp hb)))
  · rcases List.mem_cons.mp (hl.mem_iff.mp hb) with rfl | hrest
    · exact .inr rfl
    · exact .inl (hl'.mem_iff.mpr (List.mem_cons_of_mem _ hrest))

lemma Recast.mem_new {l l' : List (String × Vote)} (h : Recast voter vote l l') :
    (voter, vote) ∈ l' := by
  obtain ⟨rest, hl', -⟩ := h
  exact hl'.mem_iff.mpr List.mem_cons_self

/-- Nobody who voted is missing. -/
lemma Recast.countUniqueVoters_le (h : Recast voter vote (ballots votes) (ballots votes')) :
    countUniqueVoters votes ≤ countUniqueVoters votes' := by
  unfold countUniqueVoters
  rw [← List.card_toFinset, ← List.card_toFinset]
  refine Finset.card_le_card fun v hv => ?_
  simp only [List.mem_toFinset, List.mem_map] at hv ⊢
  obtain ⟨b, hb, rfl⟩ := hv
  rcases h.mem hb with hmem | heq
  · exact ⟨b, hmem, rfl⟩
  · exact ⟨_, h.mem_new, heq.symm⟩

lemma Recast.mem_old {l l' : List (String × Vote)} (h : Recast voter vote l l') {b : String × Vote}
    (hb : b ∈ l') : b = (voter, vote) ∨ b ∈ l := by
  obtain ⟨rest, hl', hl⟩ := h
  refine (List.mem_cons.mp (hl'.mem_iff.mp hb)).imp id fun hrest => ?_
  rcases hl with hl | ⟨old, hl⟩
  · exact hl.mem_iff.mpr hrest
  · exact hl.mem_iff.mpr (List.mem_cons_of_mem _ hrest)

/-- The second ballots lean to approval: by any weights, they hold no less of approvals and no more
of rejections, and they hold the approvals of everyone. -/
structure Leans (votes votes' : Std.ExtTreeMap String (Std.ExtTreeMap String Vote)) : Prop where
  approve : ∀ {weight : String → ℚ}, (∀ v, 0 ≤ weight v) →
    share "APPROVE" weight (ballots votes) ≤ share "APPROVE" weight (ballots votes')
  reject : ∀ {weight : String → ℚ}, (∀ v, 0 ≤ weight v) →
    share "REJECT" weight (ballots votes') ≤ share "REJECT" weight (ballots votes)
  approvedBy : ∀ p, approvedBy votes p = true → approvedBy votes' p = true

/-- With one more approval they do. -/
lemma Recast.leans_approve (h : Recast voter vote (ballots votes) (ballots votes'))
    (hvote : vote.vote = "APPROVE") : Leans votes votes' where
  approve hw := h.share_le hw hvote
  reject hw := h.share_ge hw (by simp [hvote])
  approvedBy p happroved := by
    rw [approvedBy_iff] at happroved ⊢
    obtain ⟨old, hmem, hold⟩ := happroved
    rcases h.mem hmem with hmem' | rfl
    · exact ⟨old, hmem', hold⟩
    · exact ⟨vote, h.mem_new, hvote⟩

/-- With one more rejection those before it do. -/
lemma Recast.leans_reject (h : Recast voter vote (ballots votes) (ballots votes'))
    (hvote : vote.vote = "REJECT") : Leans votes' votes where
  approve hw := h.share_ge hw (by simp [hvote])
  reject hw := h.share_le hw hvote
  approvedBy p happroved := by
    rw [approvedBy_iff] at happroved ⊢
    obtain ⟨old, hmem, hold⟩ := happroved
    rcases h.mem_old hmem with heq | hmem'
    · rw [(Prod.mk.inj heq).2, hvote] at hold
      exact absurd hold (by decide)
    · exact ⟨old, hmem', hold⟩

/-- More voters meet what fewer do. -/
lemma quorumMet_mono {voters voters' participants : ℕ} (hle : voters ≤ voters')
    (h : quorumMet .exact voting voters participants = true) :
    quorumMet .exact voting voters' participants = true := by
  have hcast : (voters : ℚ) ≤ voters' := Nat.cast_le.mpr hle
  unfold quorumMet at h ⊢
  simp only [Arith.exact] at h ⊢
  split_ifs at h ⊢ with hp hzero
  · exact h
  · rw [decide_eq_true_eq] at h ⊢
    refine h.trans ?_
    gcongr
  · rw [decide_eq_true_eq] at h ⊢
    exact h.trans hcast

end Counters

/-! ### Verdicts -/

section Verdicts

variable {votes votes' : Std.ExtTreeMap String (Std.ExtTreeMap String Vote)} {voter : String}
  {vote : Vote} {voting : Voting ℚ} {participants : List String}

lemma meets_eq_passed {threshold ratio : ℚ} :
    meets .exact threshold ratio = .passed ↔ threshold ≤ ratio := by
  by_cases h : threshold ≤ ratio <;> simp [meets, Arith.exact, h]

lemma meets_ne_noVotes {threshold ratio : ℚ} : meets .exact threshold ratio ≠ .noVotes := by
  by_cases h : threshold ≤ ratio <;> simp [meets, Arith.exact, h]

lemma decisive_pos {weight : String → ℚ} {l : List (String × Vote)} (hw : ∀ v, 0 ≤ weight v)
    (hl : decisive weight l ≠ 0) : 0 < decisive weight l :=
  lt_of_le_of_ne (add_nonneg (share_nonneg hw _) (share_nonneg hw _)) hl.symm

/-- The ratio of the approvals grows. -/
lemma Leans.ratio_le (h : Leans votes votes') {weight : String → ℚ} (hw : ∀ v, 0 ≤ weight v)
    (hne : decisive weight (ballots votes) ≠ 0) (hne' : decisive weight (ballots votes') ≠ 0) :
    share "APPROVE" weight (ballots votes) / decisive weight (ballots votes)
      ≤ share "APPROVE" weight (ballots votes') / decisive weight (ballots votes') :=
  Decision.ratio_le (share_nonneg hw _) (share_nonneg hw _) (h.approve hw) (h.reject hw)
    (decisive_pos hw hne) (decisive_pos hw hne')

/-- The verdict in terms of the shares. -/
lemma verdict_exact (hw : ∀ v, 0 ≤ voting.weight v) :
    verdict .exact voting votes participants =
      let l := ballots votes
      let ratio (weight : String → ℚ) := share "APPROVE" weight l / decisive weight l
      if decisive (fun _ => 1) l = 0 then .noVotes
      else if voting.algorithm = "majority" then meets .exact voting.threshold (ratio fun _ => 1)
      else if voting.algorithm = "supermajority" then
        meets .exact (if 1 / 2 < voting.threshold then voting.threshold else 2 / 3)
          (ratio fun _ => 1)
      else if voting.algorithm = "unanimous" then
        if participants.all (approvedBy votes) ∧ share "REJECT" (fun _ => 1) l = 0 then .passed
        else .failed
      else if voting.algorithm = "weighted" then
        if decisive voting.weight l = 0 then .noVotes
        else meets .exact voting.threshold (ratio voting.weight)
      else if voting.algorithm = "plurality" then
        if share "REJECT" (fun _ => 1) l < share "APPROVE" (fun _ => 1) l then .passed else .failed
      else .failed := by
  have hnonneg : ¬ decisive voting.weight (ballots votes) < 0 :=
    not_lt.mpr (add_nonneg (share_nonneg hw _) (share_nonneg hw _))
  unfold verdict
  simp only [weightedVotes_exact, ← approve_eq_share, ← reject_eq_share, ← nonAbstainTotal_eq]
  simp [Arith.exact, hnonneg]

lemma verdict_eq_noVotes (hw : ∀ v, 0 ≤ voting.weight v) :
    verdict .exact voting votes participants = .noVotes
      ↔ decisive (fun _ => 1) (ballots votes) = 0
        ∨ voting.algorithm = "weighted" ∧ decisive voting.weight (ballots votes) = 0 := by
  rw [verdict_exact hw]
  dsimp only
  split_ifs <;> simp_all [meets_ne_noVotes]

/-- A decisive ballot does not undo a tally. -/
lemma Recast.verdict_ne_noVotes (h : Recast voter vote (ballots votes) (ballots votes'))
    (hw : ∀ v, 0 ≤ voting.weight v) (hvote : isDecisive vote = true)
    (hbinding : verdict .exact voting votes participants ≠ .noVotes) :
    verdict .exact voting votes' participants ≠ .noVotes := by
  have hkeeps {weight : String → ℚ} (hw : ∀ v, 0 ≤ weight v)
      (hl' : decisive weight (ballots votes') = 0) : decisive weight (ballots votes) = 0 := by
    by_contra hl
    exact ((decisive_pos hw hl).trans_le (h.decisive_le hw hvote)).ne' hl'
  rw [Ne, verdict_eq_noVotes hw] at hbinding ⊢
  exact fun hnone => hbinding (hnone.imp (hkeeps fun _ => zero_le_one) (.imp id (hkeeps hw)))

/-- **A passed vote stays passed where ballots lean more to approval**, if there are any. -/
theorem verdict_passed_mono (hw : ∀ v, 0 ≤ voting.weight v) (h : Leans votes votes')
    (hbinding : verdict .exact voting votes' participants ≠ .noVotes)
    (hpassed : verdict .exact voting votes participants = .passed) :
    verdict .exact voting votes' participants = .passed := by
  have hone : ∀ _ : String, (0 : ℚ) ≤ 1 := fun _ => zero_le_one
  rw [Ne, verdict_eq_noVotes hw, not_or] at hbinding
  obtain ⟨hzero', hweight'⟩ := hbinding
  rw [verdict_exact hw] at hpassed ⊢
  dsimp only at hpassed ⊢
  by_cases hzero : decisive (fun _ => 1) (ballots votes) = 0
  · simp [hzero] at hpassed
  rw [if_neg hzero] at hpassed
  rw [if_neg hzero']
  have hratio := h.ratio_le hone hzero hzero'
  -- one case for each algorithm
  by_cases h1 : voting.algorithm = "majority"
  · rw [if_pos h1, meets_eq_passed] at hpassed ⊢
    exact hpassed.trans hratio
  rw [if_neg h1] at hpassed ⊢
  by_cases h2 : voting.algorithm = "supermajority"
  · rw [if_pos h2, meets_eq_passed] at hpassed ⊢
    exact hpassed.trans hratio
  rw [if_neg h2] at hpassed ⊢
  by_cases h3 : voting.algorithm = "unanimous"
  · rw [if_pos h3] at hpassed ⊢
    split_ifs at hpassed with hall
    refine if_pos ⟨List.all_eq_true.mpr fun p hp => ?_, ?_⟩
    · exact h.approvedBy p (List.all_eq_true.mp hall.1 p hp)
    · exact le_antisymm ((h.reject hone).trans hall.2.le) (share_nonneg hone _)
  rw [if_neg h3] at hpassed ⊢
  by_cases h4 : voting.algorithm = "weighted"
  · rw [if_pos h4] at hpassed ⊢
    split_ifs at hpassed with hweight
    have hweight' := fun hz => hweight' ⟨h4, hz⟩
    rw [meets_eq_passed] at hpassed
    rw [if_neg hweight', meets_eq_passed]
    exact hpassed.trans (h.ratio_le hw hweight hweight')
  rw [if_neg h4] at hpassed ⊢
  by_cases h5 : voting.algorithm = "plurality"
  · rw [if_pos h5] at hpassed ⊢
    split_ifs at hpassed with hlt
    exact if_pos (((h.reject hone).trans_lt hlt).trans_le (h.approve hone))
  · rw [if_neg h5] at hpassed
    cases hpassed

end Verdicts

/-! ### Outcomes -/

/-- A ballot is added or recast, with one choice. -/
inductive Cast (choice : String) : State → State → Prop
  | ballot (state : State) (proposalId voter : String) (vote : Vote) (h : vote.vote = choice) :
      Cast choice state { state with votes := Table.put state.votes proposalId voter vote }

section Outcomes

variable {votes votes' : Std.ExtTreeMap String (Std.ExtTreeMap String Vote)} {voter : String}
  {vote : Vote} {voting : Voting ℚ} {rules : DecisionPolicyRules} {schemaVersion : ℕ}
  {participants : List String} {render : Rendering} {state state' : State}

/-- A rejection does not undo the decisive ones. -/
lemma Recast.decisiveRejects_pos (h : Recast voter vote (ballots votes) (ballots votes'))
    (hvote : vote.vote = "REJECT") (hpos : 0 < decisiveRejects .exact voting votes) :
    0 < decisiveRejects .exact voting votes' := by
  unfold decisiveRejects at hpos ⊢
  rw [List.countP_pos_iff] at hpos ⊢
  obtain ⟨⟨v, old⟩, hmem, hcounts⟩ := hpos
  rcases h.mem hmem with hmem' | rfl
  · exact ⟨_, hmem', hcounts⟩
  · refine ⟨_, h.mem_new, ?_⟩
    rw [Bool.and_eq_true] at hcounts ⊢
    exact ⟨by simpa using hvote, hcounts.2⟩

/-- An approval that is allowed stays so under one more approval. -/
lemma Allowed.cast_approve (hw : ∀ v, 0 ≤ voting.weight v) (hversion : 3 ≤ schemaVersion)
    (hcast : Cast "APPROVE" state state')
    (h : Allowed .exact voting rules schemaVersion participants render state true) :
    Allowed .exact voting rules schemaVersion participants render state' true := by
  obtain ⟨proposalId, voter, vote, hvote⟩ := hcast
  have hrecast := recast_put state.votes proposalId voter vote
  refine h.imp id fun ⟨hevaluations, hveto, hquorum, hcarried⟩ =>
    ⟨hevaluations, hveto, fun hreq => ?_, fun hnone => ?_⟩
  · exact quorumMet_mono hrecast.countUniqueVoters_le (hquorum hreq)
  · have hold := hcarried hnone
    simp only [Carried, if_true] at hold ⊢
    cases hverdict : verdict .exact voting state.votes participants with
    | passed =>
      have hbinding := hrecast.verdict_ne_noVotes hw (by simp [isDecisive, hvote])
        (hverdict.trans_ne (by simp))
      rw [verdict_passed_mono hw (hrecast.leans_approve hvote) hbinding hverdict]
      trivial
    | failed => simp [hverdict] at hold
    | noVotes =>
      rw [hverdict] at hold
      omega

/-- A decline that is allowed stays so under one more rejection. -/
lemma Allowed.cast_reject (hw : ∀ v, 0 ≤ voting.weight v) (hcast : Cast "REJECT" state state')
    (h : Allowed .exact voting rules schemaVersion participants render state false) :
    Allowed .exact voting rules schemaVersion participants render state' false := by
  obtain ⟨proposalId, voter, vote, hvote⟩ := hcast
  have hrecast := recast_put state.votes proposalId voter vote
  refine h.imp id fun ⟨hevaluations, hveto, hquorum, hcarried⟩ =>
    ⟨hevaluations, hveto, fun hreq => ?_, fun hnone => ?_⟩
  · exact quorumMet_mono hrecast.countUniqueVoters_le (hquorum hreq)
  · have hold := hcarried hnone
    simp only [Carried, Bool.false_eq_true, if_false] at hold ⊢
    have hbinding : verdict .exact voting state.votes participants ≠ .noVotes := by
      intro hverdict
      rw [hverdict] at hold
      exact hold
    cases hverdict' : verdict .exact voting
        (Table.put state.votes proposalId voter vote) participants with
    | passed =>
      rw [verdict_passed_mono hw (hrecast.leans_reject hvote) hbinding hverdict'] at hold
      exact ⟨hold.1, hrecast.decisiveRejects_pos hvote hold.2⟩
    | failed =>
      refine hrecast.decisiveRejects_pos hvote ?_
      cases hverdict : verdict .exact voting state.votes participants with
      | passed =>
        rw [hverdict] at hold
        exact hold.2
      | failed =>
        rw [hverdict] at hold
        exact hold
      | noVotes => exact absurd hverdict hbinding
    | noVotes =>
      have hdecisive : isDecisive vote = true := by simp [isDecisive, hvote]
      exact hrecast.verdict_ne_noVotes hw hdecisive hbinding hverdict'

end Outcomes

end MacpRuntime.Decision

namespace MacpRuntime

open Decision Relation

/-- Every weight of admitted rules stands for a rational that is not negative. -/
lemma weight_nonneg {a : Admission} {raw : Json} {rules : DecisionPolicyRules}
    (h : validateDecision a.render raw rules = .ok ()) (voter : String) :
    0 ≤ (rules.voting.read Double.value).weight voter := by
  change 0 ≤ Double.value (weightOf rules.voting.weights voter)
  unfold weightOf
  cases hw : rules.voting.weights[voter]? with
  | none => exact le_rfl
  | some w =>
    have hmem := Std.ExtTreeMap.mem_toList_iff_getElem?_eq_some.mpr hw
    exact Double.value_nonneg ((validateDecision_eq_ok h).2.1 _ hmem).1

/-- **Votes are monotone**: read in exact rationals, under a registered policy with a schema
version of at least 3, an approval that is allowed stays allowed however many ballots are added
to it or turned into it, and a decline likewise. -/
theorem vote_monotone {a : Admission} {entries : Std.ExtTreeMap String PolicyDefinition}
    {registry : PolicyRegistry} {policy : PolicyDefinition}
    (h : (a.registry entries).register policy = .ok registry)
    (hbinds : policy.Binds "macp.mode.decision.v1") (hversion : 3 ≤ policy.schemaVersion)
    (participants : List String) (state state' : State) :
    (AllowedUnder .exact Double.value a.schemas a.render policy state participants true →
        ReflTransGen (Cast "APPROVE") state state' →
        AllowedUnder .exact Double.value a.schemas a.render policy state' participants true)
      ∧ (AllowedUnder .exact Double.value a.schemas a.render policy state participants false →
        ReflTransGen (Cast "REJECT") state state' →
        AllowedUnder .exact Double.value a.schemas a.render policy state' participants false) := by
  obtain ⟨rules', hrules', hvalid⟩ := (admissible_of_register h).decision hbinds
  have hw := weight_nonneg hvalid
  constructor
  · rintro ⟨rules, hrules, hevaluable, hallowed⟩ hcasts
    cases hrules.symm.trans hrules'
    refine ⟨rules', hrules', hevaluable, ?_⟩
    induction hcasts with
    | refl => exact hallowed
    | tail _ hcast ih => exact ih.cast_approve hw hversion hcast
  · rintro ⟨rules, hrules, hevaluable, hallowed⟩ hcasts
    cases hrules.symm.trans hrules'
    refine ⟨rules', hrules', hevaluable, ?_⟩
    induction hcasts with
    | refl => exact hallowed
    | tail _ hcast ih => exact ih.cast_reject hw hcast

/-- A ballot on the proposal `p1`. -/
def sampleVote (voter choice : String) : Vote := ⟨"p1", choice, "", voter⟩

/-- One participant has voted. -/
def votedState (voter choice : String) : State where
  proposals := ∅
  evaluations := []
  objections := []
  votes := Table.put ∅ "p1" voter (sampleVote voter choice)
  phase := .Voting

/-- The same, after another vote. -/
def votedAgain (voter choice : String) (state : State) : State :=
  { state with votes := Table.put state.votes "p1" voter (sampleVote voter choice) }

/-- A vote by majority, and nothing else. -/
def majorityRules : DecisionPolicyRules := { DecisionPolicyRules.default with
  voting := { VotingRules.default with algorithm := "majority" } }

lemma votedState_allowed :
    AllowedUnder .exact Double.value Admission.plain.schemas Admission.plain.render halfPolicy
      (votedState "alice" "APPROVE") ["alice", "bob"] true := by
  refine ⟨majorityRules, rfl, ⟨by decide, rfl⟩, .inr ⟨rfl, rfl, fun h => ?_, fun _ => ?_⟩⟩
  · cases h
  · have hverdict : verdict .exact (majorityRules.voting.read Double.value)
        (votedState "alice" "APPROVE").votes ["alice", "bob"] = .passed := by decide +kernel
    simp only [Carried, if_true]
    rw [hverdict]
    trivial

theorem vote_monotone_sample :
    AllowedUnder .exact Double.value Admission.plain.schemas Admission.plain.render halfPolicy
      (votedAgain "bob" "APPROVE" (votedState "alice" "APPROVE")) ["alice", "bob"] true := by
  obtain ⟨registry, h⟩ := halfPolicy_registered
  exact (vote_monotone h (.inr rfl) (by decide) ["alice", "bob"] _ _).1 votedState_allowed
    (.single (.ballot _ "p1" "bob" (sampleVote "bob" "APPROVE") rfl))

end MacpRuntime
