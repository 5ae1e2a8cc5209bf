import MacpRuntime.Decision.Mode
import MacpRuntime.Lib.Nested

/-!
What one accepted message changes in a decision: `Change` lists the changes, each with what the mode
checked before it, and **every accepted message makes one of them** (`took_change`).
-/

namespace MacpRuntime.Decision

variable {d : Deps}

/-- The ballot of a participant on a proposal. -/
def State.ballot? (st : State) (proposalId voter : String) : Option Vote :=
  Table.get st.votes proposalId voter

/-- The values of a ballot. -/
def ballotValues : List String := ["APPROVE", "REJECT", "ABSTAIN"]

/-- The state with one more ballot, filed by its proposal and its sender. -/
def State.cast (st : State) (v : Vote) : State :=
  { st with votes := Table.put st.votes v.proposalId v.sender v, phase := .Voting }

/-- The changes an accepted message can make. -/
inductive Change (d : Deps) (s : Session) (env : Envelope) (st : State) : State → Prop
  | proposal {r : Proposal} (hphase : st.phase = .Proposal ∨ st.phase = .Evaluation)
      (hnew : r.proposalId ∉ st.proposals) :
      Change d s env st
        { st with proposals := st.proposals.insert r.proposalId r, phase := .Evaluation }
  | evaluation {payload : EvaluationPayload} {e : Evaluation}
      (htype : env.messageType = "Evaluation")
      (hpayload : d.decodeEvaluation env.payload = some payload)
      (hconfidence : e.confidence = payload.confidence) (hphase : st.phase = .Evaluation)
      (hknown : e.proposalId ∈ st.proposals) (hsender : e.sender ∈ s.participants) :
      Change d s env st { st with evaluations := st.evaluations ++ [e] }
  | objection {o : Objection} (hphase : st.phase = .Evaluation)
      (hknown : o.proposalId ∈ st.proposals) (hsender : o.sender ∈ s.participants) :
      Change d s env st { st with objections := st.objections ++ [o] }
  | vote {v : Vote} (hphase : st.phase = .Evaluation ∨ st.phase = .Voting)
      (hknown : v.proposalId ∈ st.proposals) (hfirst : st.ballot? v.proposalId v.sender = none)
      (hvalue : v.vote ∈ ballotValues) (hsender : v.sender ∈ s.participants) :
      Change d s env st (st.cast v)
  | commit (hphase : st.phase ≠ .Committed) (hready : commitmentReady st = true) :
      Change d s env st { st with phase := .Committed }

/-! ### The checks -/

lemma ensureKnownProposal_eq_ok {st : State} {proposalId : String}
    (h : ensureKnownProposal st proposalId = .ok ()) : proposalId ∈ st.proposals := by
  unfold ensureKnownProposal at h
  split_ifs at h with hmem
  simpa using hmem

lemma ensureNotCommitted_eq_ok {st : State} (h : ensureNotCommitted st = .ok ()) :
    st.phase ≠ .Committed := by
  unfold ensureNotCommitted at h
  split_ifs at h with hphase
  exact hphase

lemma ensureCanPropose_eq_ok {st : State} (h : ensureCanPropose st = .ok ()) :
    st.phase = .Proposal ∨ st.phase = .Evaluation := by
  unfold ensureCanPropose at h
  split at h
  · cases h
  · rename_i hopen
    have hne := ensureNotCommitted_eq_ok hopen
    split_ifs at h with hvoting
    cases hphase : st.phase with
    | Proposal => exact .inl rfl
    | Evaluation => exact .inr rfl
    | Voting => exact absurd hphase hvoting
    | Committed => exact absurd hphase hne

lemma ensureCanDeliberate_eq_ok {st : State} (h : ensureCanDeliberate st = .ok ()) :
    st.phase = .Evaluation := by
  unfold ensureCanDeliberate at h
  split at h
  · cases h
  · split_ifs at h with hphase
    exact not_not.mp hphase

lemma ensureCanVote_eq_ok {st : State} (h : ensureCanVote st = .ok ()) :
    st.phase = .Evaluation ∨ st.phase = .Voting := by
  unfold ensureCanVote at h
  split at h
  · cases h
  · split_ifs at h with hclosed
    cases hphase : st.phase with
    | Proposal => exact absurd (.inl hphase) hclosed
    | Evaluation => exact .inl rfl
    | Voting => exact .inr rfl
    | Committed => exact absurd (.inr hphase) hclosed

lemma knownEnum_eq_ok {s : Session} {raw text : String} {fold : String → String}
    {legacyDefault : Option String} {known : List String}
    (h : knownEnum s raw fold legacyDefault known = .ok text) : text ∈ known := by
  unfold knownEnum at h
  split at h
  · cases h
  · split_ifs at h with hmem
    cases h
    simpa using hmem

/-- Everything but a commitment comes from a declared participant. -/
lemma declared_of_authorized {s : Session} {env : Envelope}
    (h : authorizeSender d s env = .ok ()) (htype : env.messageType ≠ "Commitment") :
    env.sender ∈ s.participants := by
  unfold authorizeSender at h
  rw [if_neg (by simpa using htype)] at h
  split_ifs at h with hsender
  rw [Bool.and_eq_true] at hsender
  simpa [isDeclaredParticipant] using hsender.2

/-! ### The message arms -/

section Arms

variable {s : Session} {env : Envelope} {st : State} {outcome : Outcome State}

lemma handleProposal_change (h : handleProposal d env st = .ok outcome) :
    Change d s env st outcome.state := by
  unfold handleProposal at h
  split at h
  · cases h
  · rename_i hphase
    split at h
    · cases h
    · split_ifs at h with hbad
      cases h
      simp only [Bool.or_eq_true, not_or] at hbad
      exact .proposal (r := ⟨_, _, _, env.sender⟩) (ensureCanPropose_eq_ok hphase)
        (by simpa using hbad.2)

lemma handleEvaluation_change (htype : env.messageType = "Evaluation")
    (hsender : env.sender ∈ s.participants) (h : handleEvaluation d s env st = .ok outcome) :
    Change d s env st outcome.state := by
  unfold handleEvaluation at h
  split at h
  · cases h
  · rename_i payload hpayload
    split at h
    · cases h
    · split_ifs at h
      split at h
      · cases h
      · rename_i hphase
        split at h
        · cases h
        · rename_i hknown
          cases h
          exact .evaluation htype hpayload rfl (ensureCanDeliberate_eq_ok hphase)
            (ensureKnownProposal_eq_ok hknown) hsender

lemma handleObjection_change (hsender : env.sender ∈ s.participants)
    (h : handleObjection d s env st = .ok outcome) : Change d s env st outcome.state := by
  unfold handleObjection at h
  split at h
  · cases h
  · split at h
    · cases h
    · split at h
      · cases h
      · rename_i hphase
        split at h
        · cases h
        · rename_i hknown
          cases h
          exact .objection (ensureCanDeliberate_eq_ok hphase) (ensureKnownProposal_eq_ok hknown)
            hsender

lemma handleVote_change (hsender : env.sender ∈ s.participants)
    (h : handleVote d s env st = .ok outcome) : Change d s env st outcome.state := by
  unfold handleVote at h
  split at h
  · cases h
  · rename_i payload _
    split at h
    · cases h
    · rename_i vote hvote
      split at h
      · cases h
      · rename_i hphase
        split at h
        · cases h
        · rename_i hknown
          dsimp only at h
          split_ifs at h with hagain
          cases h
          have hfirst : st.ballot? payload.proposalId env.sender = none := by
            unfold State.ballot? Table.get
            cases hbox : st.votes[payload.proposalId]? with
            | none => rfl
            | some ballots =>
              rw [hbox, Option.getD_some] at hagain
              simpa using hagain
          exact .vote (v := ⟨payload.proposalId, vote, payload.reason, env.sender⟩)
            (ensureCanVote_eq_ok hphase) (ensureKnownProposal_eq_ok hknown) hfirst
            (knownEnum_eq_ok hvote) hsender

lemma handleCommitment_change (hphase : st.phase ≠ .Committed)
    (h : handleCommitment d s env st = .ok outcome) :
    commitmentReady st = true ∧ Change d s env st outcome.state := by
  unfold handleCommitment at h
  split at h
  · cases h
  · split_ifs at h with hready
    have hready' : commitmentReady st = true := by simpa using hready
    split at h
    · cases h
    · cases h
      exact ⟨hready', .commit hphase hready'⟩

/-- **Every accepted message makes one of the changes.** -/
theorem took_change (h : (parts d).Took s env st outcome) : Change d s env st outcome.state := by
  have hauth : authorizeSender d s env = .ok () := h.authorized
  have hhandled : handle d s env st = .ok outcome := h.handled
  unfold handle at hhandled
  split at hhandled
  · cases hhandled
  · rename_i hopen
    have hphase := ensureNotCommitted_eq_ok hopen
    split_ifs at hhandled with h1 h2 h3 h4 h5
    · exact handleProposal_change hhandled
    · have htype : env.messageType = "Evaluation" := by simpa using h2
      exact handleEvaluation_change htype (declared_of_authorized hauth (by simp [htype])) hhandled
    · have htype : env.messageType = "Objection" := by simpa using h3
      exact handleObjection_change (declared_of_authorized hauth (by simp [htype])) hhandled
    · have htype : env.messageType = "Vote" := by simpa using h4
      exact handleVote_change (declared_of_authorized hauth (by simp [htype])) hhandled
    · exact (handleCommitment_change hphase hhandled).2

/-- Without participants only a commitment is authorized, and there is nothing to commit to. -/
lemma not_took_of_no_participants (hnone : s.participants = [])
    (hst : commitmentReady st = false) : ¬ (parts d).Took s env st outcome := by
  intro h
  by_cases htype : env.messageType = "Commitment"
  · have hhandled : handle d s env st = .ok outcome := h.handled
    unfold handle at hhandled
    split at hhandled
    · cases hhandled
    · rename_i hopen
      simp only [htype] at hhandled
      have hready := (handleCommitment_change (ensureNotCommitted_eq_ok hopen) hhandled).1
      rw [hst] at hready
      cases hready
  · have hsender := declared_of_authorized h.authorized htype
    rw [hnone] at hsender
    exact List.not_mem_nil hsender

end Arms

end MacpRuntime.Decision
