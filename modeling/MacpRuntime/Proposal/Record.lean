import MacpRuntime.Lib.Entries
import MacpRuntime.Proposal.Agreement

/-!
What a negotiation keeps on record, over whole runs.

* `Change`: the changes an accepted message makes, apart from the phase; there are no others;
* `State.Sound`: accepts and terminal rejections are about live proposals, the links between
  proposals end, and there are no more counter-proposals than the policy allows;
* `State.Later`: no proposal is removed or edited, and a withdrawn one stays withdrawn;
* `proposal_record`: **all of it along every run** short of the commitment, with the phase that the
  rest of the state gives, and withdrawals made by their proposers.
-/

namespace MacpRuntime.Proposal

open Std

variable {d : Deps}

/-! ### What one message changes -/

/-- The proposal is on record and not withdrawn. -/
def State.Live (st : State) (id : String) : Prop :=
  ∃ r, st.proposals[id]? = some r ∧ r.disposition = .Live

/-- The state with one more proposal, filed by its id. -/
def State.file (st : State) (r : ProposalRecord) : State :=
  { st with proposals := st.proposals.insert r.proposalId r }

/-- The state without the proposal's accepts and terminal rejections, and the proposal marked. -/
def State.withdraw (st : State) (id : String) (r : ProposalRecord) : State :=
  { st with
    proposals := st.proposals.insert id { r with disposition := .Withdrawn }
    accepts := st.accepts.filter fun _ accepted => accepted != id
    terminalRejections := st.terminalRejections.filter (·.proposalId != id) }

/-- The changes an accepted message can make, apart from the phase. -/
inductive Change (d : Deps) (s : Session) (env : Envelope) (st : State) : State → Prop
  | proposal {r : ProposalRecord} (hnew : st.proposals[r.proposalId]? = none)
      (hlive : r.disposition = .Live) (hroot : r.supersedesProposalId = none) :
      Change d s env st (st.file r)
  | counter {r : ProposalRecord} {prev : String} (hnew : st.proposals[r.proposalId]? = none)
      (hlive : r.disposition = .Live) (hlink : r.supersedesProposalId = some prev)
      (hprev : prev ∈ st.proposals)
      (hrounds : 0 < (boundRules d s).maxRounds → counterCount st < (boundRules d s).maxRounds) :
      Change d s env st (st.file r)
  | accept {id : String} (hlive : st.Live id) :
      Change d s env st { st with accepts := st.accepts.insert env.sender id }
  | reject {id : String} {rejections : List RejectRecord} {terminal : List TerminalRejectRecord}
      (hlive : st.Live id)
      (hterminal : ∀ t ∈ terminal, t ∈ st.terminalRejections ∨ t.proposalId = id) :
      Change d s env st { st with rejections := rejections, terminalRejections := terminal }
  | withdraw {id : String} {r : ProposalRecord} (htype : env.messageType = "Withdraw")
      (hpayload : d.decodeWithdraw env.payload = some id) (hget : st.proposals[id]? = some r)
      (hproposer : r.proposer = env.sender) : Change d s env st (st.withdraw id r)
  | commit : Change d s env st st

section Arms

variable {s : Session} {env : Envelope} {st : State} {outcome : Outcome State}

/-- A message that is stored leaves a change of the state, with its phase refreshed. -/
def Stored (d : Deps) (s : Session) (env : Envelope) (st : State) (outcome : Outcome State) :
    Prop :=
  ∃ st', Change d s env st st' ∧ outcome.state = refreshPhase d s st'

lemma live_of_liveProposal {id : String} (h : ¬ (liveProposal st id).isNone = true) :
    st.Live id := by
  rw [Option.isNone_iff_eq_none] at h
  obtain ⟨r, hr⟩ := Option.ne_none_iff_exists'.mp h
  rw [liveProposal, Option.filter_eq_some_iff] at hr
  exact ⟨r, hr.1, by simpa using hr.2⟩

lemma handleProposal_stored (h : handleProposal d s env st = .ok outcome) :
    Stored d s env st outcome := by
  unfold handleProposal at h
  split at h
  · cases h
  · split_ifs at h with hbad
    cases h
    simp only [Bool.or_eq_true, not_or] at hbad
    refine ⟨_, .proposal (r := ⟨_, _, _, _, _, env.sender, none, .Live⟩) ?_ rfl rfl, rfl⟩
    exact ExtTreeMap.getElem?_eq_none (by simpa using hbad.2)

lemma handleCounterProposal_stored (h : handleCounterProposal d s env st = .ok outcome) :
    Stored d s env st outcome := by
  unfold handleCounterProposal at h
  split at h
  · cases h
  · rename_i payload _
    split_ifs at h with hbad hrounds
    cases h
    simp only [Bool.or_eq_true, not_or] at hbad
    obtain ⟨⟨-, hnew⟩, hprev⟩ := hbad
    refine ⟨_, .counter (r := ⟨_, _, _, _, [], env.sender, some payload.supersedesProposalId,
      .Live⟩) ?_ rfl rfl (by simpa using hprev) ?_, rfl⟩
    · exact ExtTreeMap.getElem?_eq_none (by simpa using hnew)
    · intro hpos
      exact Nat.lt_of_not_le fun hle => hrounds ⟨hpos, hle⟩

lemma handleAccept_stored (h : handleAccept d s env st = .ok outcome) :
    Stored d s env st outcome := by
  unfold handleAccept at h
  split at h
  · cases h
  · split_ifs at h with hlive
    cases h
    exact ⟨_, .accept (live_of_liveProposal hlive), rfl⟩

lemma handleReject_stored (h : handleReject d s env st = .ok outcome) :
    Stored d s env st outcome := by
  unfold handleReject at h
  split at h
  · cases h
  · rename_i payload _
    split_ifs at h with hlive
    dsimp only at h
    cases h
    refine ⟨_, .reject (live_of_liveProposal hlive) ?_, rfl⟩
    intro t ht
    split_ifs at ht
    · rcases List.mem_append.mp ht with hold | hnew
      · exact .inl hold
      · exact .inr (by rw [List.mem_singleton.mp hnew])
    · exact .inl ht

lemma handleWithdraw_stored (htype : env.messageType = "Withdraw")
    (h : handleWithdraw d s env st = .ok outcome) : Stored d s env st outcome := by
  unfold handleWithdraw at h
  split at h
  · cases h
  · rename_i id hpayload
    split_ifs at h
    split at h
    · cases h
    · rename_i r hget
      split_ifs at h with hproposer hwithdrawn
      cases h
      exact ⟨_, .withdraw htype hpayload hget (not_not.mp hproposer), rfl⟩

lemma handleCommitment_state (h : handleCommitment d s env st = .ok outcome) :
    outcome.state = { st with phase := .Committed } := by
  unfold handleCommitment at h
  split at h
  · cases h
  · dsimp only at h
    split_ifs at h
    split at h
    · cases h
    · cases h
      rfl

/-- **Every accepted message makes one of the changes**, and all but a commitment store the phase
that the changed state gives. -/
theorem took_change (h : (parts d).Took s env st outcome) :
    ∃ st' phase, Change d s env st st' ∧ outcome.state = { st' with phase := phase }
      ∧ (env.messageType ≠ "Commitment" → phase = currentPhase d s st') := by
  have hstored : Stored d s env st outcome → ∃ st' phase, Change d s env st st'
      ∧ outcome.state = { st' with phase := phase }
      ∧ (env.messageType ≠ "Commitment" → phase = currentPhase d s st') :=
    fun ⟨st', hchange, hstate⟩ => ⟨st', _, hchange, hstate, fun _ => rfl⟩
  have hhandled : handle d s env st = .ok outcome := h.handled
  unfold handle at hhandled
  split at hhandled
  · cases hhandled
  · split_ifs at hhandled with h1 h2 h3 h4 h5 h6
    · exact hstored (handleProposal_stored hhandled)
    · exact hstored (handleCounterProposal_stored hhandled)
    · exact hstored (handleAccept_stored hhandled)
    · exact hstored (handleReject_stored hhandled)
    · exact hstored (handleWithdraw_stored (by simpa using h5) hhandled)
    · exact ⟨st, .Committed, .commit, handleCommitment_state hhandled,
        fun htype => absurd (by simpa using h6) htype⟩

end Arms

/-! ### Links and order -/

/-- The proposal names the one it supersedes. -/
def State.Supersedes (st : State) (id prev : String) : Prop :=
  ∃ r, st.proposals[id]? = some r ∧ r.supersedesProposalId = some prev

/-- Following the links leads to a proposal without one. -/
def State.Rooted (st : State) (id : String) : Prop :=
  ∃ root r, Relation.ReflTransGen st.Supersedes id root ∧ st.proposals[root]? = some r
    ∧ r.supersedesProposalId = none

/-- `st'` keeps the proposals of `st`: they differ at most in being withdrawn. -/
def State.Later (st st' : State) : Prop :=
  ∀ (id : String) (r : ProposalRecord), st.proposals[id]? = some r →
    ∃ disposition, st'.proposals[id]? = some { r with disposition := disposition }
      ∧ (r.disposition = .Withdrawn → disposition = .Withdrawn)

lemma State.Later.refl (st : State) : st.Later st := fun _ r hr => ⟨r.disposition, hr, id⟩

lemma State.Later.trans {st₁ st₂ st₃ : State} (h : st₁.Later st₂) (h' : st₂.Later st₃) :
    st₁.Later st₃ := by
  intro id r hr
  obtain ⟨disposition, hr₂, hkept⟩ := h id r hr
  obtain ⟨disposition', hr₃, hkept'⟩ := h' id _ hr₂
  exact ⟨disposition', hr₃, fun hwithdrawn => hkept' (hkept hwithdrawn)⟩

variable {st : State} {history : List (Session × Envelope)} {s t : Session}

lemma State.Later.supersedes {st' : State} (h : st.Later st') {id prev : String}
    (hlink : st.Supersedes id prev) : st'.Supersedes id prev := by
  obtain ⟨r, hr, hprev⟩ := hlink
  obtain ⟨disposition, hr', -⟩ := h id r hr
  exact ⟨_, hr', hprev⟩

lemma State.Rooted.later {st' : State} {id : String} (hroot : st.Rooted id) (h : st.Later st') :
    st'.Rooted id := by
  obtain ⟨root, r, hpath, hr, hend⟩ := hroot
  obtain ⟨disposition, hr', -⟩ := h root r hr
  have hpath' : Relation.ReflTransGen st'.Supersedes id root :=
    Relation.ReflTransGen.mono (fun _ _ => h.supersedes) id root hpath
  exact ⟨root, _, hpath', hr', hend⟩

/-- Where every element has at most one successor, one that leads to an end is on no cycle. -/
lemma not_transGen_self {α : Type} {R : α → α → Prop} (hfun : ∀ a b c, R a b → R a c → b = c)
    {a root : α} (hpath : Relation.ReflTransGen R a root) (hend : ∀ b, ¬ R root b) :
    ¬ Relation.TransGen R a a := by
  induction hpath using Relation.ReflTransGen.head_induction_on with
  | refl =>
    intro hcycle
    obtain ⟨b, hb, -⟩ := Relation.TransGen.head'_iff.mp hcycle
    exact hend b hb
  | head hab _ ih =>
    intro hcycle
    obtain ⟨b, hab', hback⟩ := Relation.TransGen.head'_iff.mp hcycle
    obtain rfl := hfun _ _ _ hab hab'
    exact ih (Relation.TransGen.tail' hback hab)

/-- Links that all end are acyclic. -/
lemma State.acyclic_of_rooted (h : ∀ id ∈ st.proposals, st.Rooted id) (id : String) :
    ¬ Relation.TransGen st.Supersedes id id := by
  intro hcycle
  obtain ⟨_, ⟨r₀, hr₀, -⟩, -⟩ := Relation.TransGen.head'_iff.mp hcycle
  have hmem : id ∈ st.proposals := by
    rw [ExtTreeMap.mem_iff_isSome_getElem?, hr₀]
    rfl
  obtain ⟨root, r, hpath, hr, hend⟩ := h id hmem
  refine not_transGen_self ?_ hpath ?_ hcycle
  · rintro a b c ⟨r₁, hr₁, hb⟩ ⟨r₂, hr₂, hc⟩
    obtain rfl := Option.some.inj (hr₁.symm.trans hr₂)
    exact Option.some.inj (hb.symm.trans hc)
  · rintro b ⟨r', hr', hb⟩
    obtain rfl := Option.some.inj (hr.symm.trans hr')
    rw [hend] at hb
    cases hb

/-- The record of a session, apart from its phase. -/
structure State.Sound (d : Deps) (s : Session) (st : State) : Prop where
  accepts : ∀ (p id : String), st.accepts[p]? = some id → st.Live id
  rejections : ∀ t ∈ st.terminalRejections, st.Live t.proposalId
  rooted : ∀ id ∈ st.proposals, st.Rooted id
  rounds : 0 < (boundRules d s).maxRounds → counterCount st ≤ (boundRules d s).maxRounds

lemma State.default_sound (s : Session) : State.default.Sound d s := by
  refine ⟨fun p id hget => ?_, fun t ht => absurd ht List.not_mem_nil, fun id hmem => ?_,
    fun _ => Nat.zero_le _⟩
  · simp [State.default] at hget
  · simp [State.default] at hmem

/-! ### One message -/

section Change

variable {s : Session} {env : Envelope} {st st' : State} {id : String} {r : ProposalRecord}

section

variable (hnew : st.proposals[r.proposalId]? = none)

include hnew

lemma State.proposals_file {r' : ProposalRecord} (h : st.proposals[id]? = some r') :
    (st.file r).proposals[id]? = some r' := by
  have hid : r.proposalId ≠ id := by
    rintro rfl
    rw [hnew] at h
    cases h
  rw [State.file, ExtTreeMap.getElem?_insert, if_neg fun heq => hid (Std.compare_eq_iff_eq.mp heq),
    h]

lemma State.later_file : st.Later (st.file r) :=
  fun _ r' hr' => ⟨r'.disposition, State.proposals_file hnew hr', id⟩

lemma State.Live.file (h : st.Live id) : (st.file r).Live id := by
  obtain ⟨r', hr', hlive⟩ := h
  exact ⟨r', State.proposals_file hnew hr', hlive⟩

end

lemma State.proposals_withdraw (r : ProposalRecord) (id id' : String) :
    (st.withdraw id r).proposals[id']?
      = if id = id' then some { r with disposition := .Withdrawn } else st.proposals[id']? := by
  rw [State.withdraw, ExtTreeMap.getElem?_insert]
  simp only [Std.compare_eq_iff_eq]

lemma State.Live.withdraw {id' : String} (h : st.Live id') (hne : id' ≠ id) :
    (st.withdraw id r).Live id' := by
  obtain ⟨r', hr', hlive⟩ := h
  exact ⟨r', by rw [State.proposals_withdraw, if_neg hne.symm, hr'], hlive⟩

lemma counterCount_file (hnew : st.proposals[r.proposalId]? = none) :
    counterCount (st.file r)
      = counterCount st + if r.supersedesProposalId.isSome then 1 else 0 :=
  Entries.countP_insert_new hnew r _

lemma counterCount_withdraw (hget : st.proposals[id]? = some r) :
    counterCount (st.withdraw id r) = counterCount st :=
  Entries.countP_insert_same hget rfl

/-- **One message leads to a later state.** -/
theorem Change.later (h : Change d s env st st') : st.Later st' := by
  cases h with
  | proposal hnew _ _ => exact State.later_file hnew
  | counter hnew _ _ _ _ => exact State.later_file hnew
  | accept _ => exact .refl st
  | reject _ _ => exact .refl st
  | @withdraw id r _ _ hget _ =>
    intro id' r' hr'
    rw [State.proposals_withdraw]
    split_ifs with hid
    · subst hid
      obtain rfl := Option.some.inj (hget.symm.trans hr')
      exact ⟨.Withdrawn, rfl, fun _ => rfl⟩
    · exact ⟨r'.disposition, hr', fun hwithdrawn => hwithdrawn⟩
  | commit => exact .refl st

/-- Filing a proposal that starts the links or continues them keeps them ending. -/
lemma State.rooted_file (hnew : st.proposals[r.proposalId]? = none)
    (hrooted : ∀ id ∈ st.proposals, st.Rooted id)
    (hlink : ∀ prev, r.supersedesProposalId = some prev → prev ∈ st.proposals) :
    ∀ id ∈ (st.file r).proposals, (st.file r).Rooted id := by
  have hself : (st.file r).proposals[r.proposalId]? = some r := by
    rw [State.file, ExtTreeMap.getElem?_insert_self]
  intro id hmem
  rw [State.file, ExtTreeMap.mem_insert, Std.compare_eq_iff_eq] at hmem
  rcases hmem with rfl | hold
  · cases hprev : r.supersedesProposalId with
    | none => exact ⟨_, r, .refl, hself, hprev⟩
    | some prev =>
      obtain ⟨root, r', hpath, hr', hend⟩ :=
        (hrooted prev (hlink prev hprev)).later (State.later_file hnew)
      exact ⟨root, r', .head ⟨r, hself, hprev⟩ hpath, hr', hend⟩
  · exact (hrooted id hold).later (State.later_file hnew)

/-- **One message keeps a record sound.** -/
theorem Change.sound (h : Change d s env st st') (hst : st.Sound d s) : st'.Sound d s := by
  obtain ⟨haccepts, hrejections, hrooted, hrounds⟩ := hst
  cases h with
  | @proposal r hnew _ hroot =>
    refine ⟨fun p id hget => (haccepts p id hget).file hnew,
      fun t ht => (hrejections t ht).file hnew, State.rooted_file hnew hrooted ?_,
      fun hpos => ?_⟩
    · simp [hroot]
    · rw [counterCount_file hnew, hroot]
      exact hrounds hpos
  | @counter r prev hnew _ hlink hprev hlimit =>
    refine ⟨fun p id hget => (haccepts p id hget).file hnew,
      fun t ht => (hrejections t ht).file hnew, State.rooted_file hnew hrooted ?_,
      fun hpos => ?_⟩
    · intro prev' hprev'
      obtain rfl := Option.some.inj (hlink.symm.trans hprev')
      exact hprev
    · rw [counterCount_file hnew, hlink]
      exact hlimit hpos
  | @accept id hlive =>
    refine ⟨fun p id' hget => ?_, hrejections, hrooted, hrounds⟩
    rw [ExtTreeMap.getElem?_insert] at hget
    split_ifs at hget
    · cases hget
      exact hlive
    · exact haccepts p id' hget
  | @reject id _ _ hlive hterminal =>
    refine ⟨haccepts, fun t ht => ?_, hrooted, hrounds⟩
    rcases hterminal t ht with hold | hnew
    · exact hrejections t hold
    · rw [hnew]
      exact hlive
  | @withdraw id r htype hpayload hget hproposer =>
    have hlater := Change.later (Change.withdraw (s := s) htype hpayload hget hproposer)
    refine ⟨fun p id' hget' => ?_, fun t ht => ?_, fun id' hmem => ?_, fun hpos => ?_⟩
    · rw [State.withdraw, ExtTreeMap.getElem?_filter', Option.filter_eq_some_iff] at hget'
      exact (haccepts p id' hget'.1).withdraw (by simpa using hget'.2)
    · rw [State.withdraw, List.mem_filter] at ht
      exact (hrejections t ht.1).withdraw (by simpa using ht.2)
    · rw [State.withdraw, ExtTreeMap.mem_insert, Std.compare_eq_iff_eq] at hmem
      refine (hrooted id' (hmem.elim ?_ fun hold => hold)).later hlater
      rintro rfl
      rw [ExtTreeMap.mem_iff_isSome_getElem?, hget]
      rfl
    · rw [counterCount_withdraw hget]
      exact hrounds hpos
  | commit => exact ⟨haccepts, hrejections, hrooted, hrounds⟩

end Change

/-! ### Whole runs -/

/-- Every withdrawn proposal was withdrawn by a message of its proposer. -/
def WithdrawnByProposer (d : Deps) (history : List (Session × Envelope)) (st : State) : Prop :=
  ∀ (id : String) (r : ProposalRecord), st.proposals[id]? = some r → r.disposition = .Withdrawn →
    ∃ e ∈ history, e.2.messageType = "Withdraw" ∧ e.2.sender = r.proposer
      ∧ d.decodeWithdraw e.2.payload = some id

lemma WithdrawnByProposer.file (h : WithdrawnByProposer d history st) {r : ProposalRecord}
    (hlive : r.disposition = .Live) : WithdrawnByProposer d history (st.file r) := by
  intro id r' hr' hwithdrawn
  rw [State.file, ExtTreeMap.getElem?_insert] at hr'
  split_ifs at hr'
  · cases hr'
    rw [hlive] at hwithdrawn
    cases hwithdrawn
  · exact h id r' hr' hwithdrawn

lemma Change.withdrawnByProposer {env : Envelope} {st' : State} (h : Change d s env st st')
    (hst : WithdrawnByProposer d history st) :
    WithdrawnByProposer d (history ++ [(s, env)]) st' := by
  have hmore : WithdrawnByProposer d (history ++ [(s, env)]) st := by
    intro id r hr hwithdrawn
    obtain ⟨e, he, hrest⟩ := hst id r hr hwithdrawn
    exact ⟨e, List.mem_append_left _ he, hrest⟩
  cases h with
  | proposal _ hlive _ => exact hmore.file hlive
  | counter _ hlive _ _ _ => exact hmore.file hlive
  | accept _ => exact hmore
  | reject _ _ => exact hmore
  | @withdraw id r htype hpayload _ hproposer =>
    intro id' r' hr' hwithdrawn
    rw [State.proposals_withdraw] at hr'
    split_ifs at hr' with hid
    · cases hr'
      subst hid
      exact ⟨(s, env), by simp, htype, hproposer.symm, hpayload⟩
    · exact hmore id' r' hr' hwithdrawn
  | commit => exact hmore

section

variable (h : t.bindings = s.bindings)

include h

lemma boundRules_congr : boundRules d t = boundRules d s := by
  have hpolicy : t.policyDefinition = s.policyDefinition :=
    congrArg (·.policyDefinition) h
  rw [boundRules, boundRules, hpolicy]

lemma checkAcceptanceCriterion_congr (criterion : String) :
    checkAcceptanceCriterion criterion t = checkAcceptanceCriterion criterion s := by
  have hpart : t.participants = s.participants := congrArg (·.participants) h
  have hinit : t.initiatorSender = s.initiatorSender :=
    congrArg (·.initiatorSender) h
  funext st proposalId proposer
  rw [checkAcceptanceCriterion, checkAcceptanceCriterion, hpart, hinit]

/-- The phase depends only on the state and on what the session bound. -/
lemma currentPhase_congr (st : State) : currentPhase d t st = currentPhase d s st := by
  rw [currentPhase, currentPhase, boundRules_congr h, checkAcceptanceCriterion_congr h]

lemma State.Sound.congr (hst : st.Sound d s) : st.Sound d t := by
  refine ⟨hst.accepts, hst.rejections, hst.rooted, ?_⟩
  rw [boundRules_congr h]
  exact hst.rounds

end

/-- Whatever a run does, it keeps the proposals. -/
lemma run_later (hst : s.modeState = (parts d).encode st) (ops : List Op) :
    ∃ st', (run (parts d).mode s ops).modeState = (parts d).encode st' ∧ st.Later st' := by
  have hstep : ∀ {t env st outcome}, (parts d).Took t env st outcome →
      st.Later outcome.state := by
    intro t env st outcome htook
    obtain ⟨st', phase, hchange, hstate, -⟩ := took_change htook
    rw [hstate]
    exact hchange.later
  obtain ⟨st', hst', -, hlater⟩ := StateMode.along_related (m := parts d) (P := fun _ => True)
    (R := State.Later) (b := s.bindings) .refl (fun _ _ _ => .trans)
    (fun st _ => parts_decode_encode d st) (fun _ _ _ _ _ _ _ htook _ => ⟨trivial, hstep htook⟩)
    rfl hst trivial (along_true s ops)
  exact ⟨st', hst', hlater⟩

/-- Short of the commitment a run keeps the record sound, with the phase it gives. -/
lemma run_sound {prost : Prost} (hbegun : SessionBegun prost (parts d).mode s) (ops : List Op)
    (hshort : ∀ e ∈ acceptedSteps (parts d).mode s ops, e.2.messageType ≠ "Commitment")
    (hst : (parts d).held (run (parts d).mode s ops) = some st) :
    st.Sound d s ∧ st.phase = currentPhase d s st
      ∧ WithdrawnByProposer d (acceptedSteps (parts d).mode s ops) st := by
  refine StateMode.along_history (m := parts d) (C := fun _ _ => True) (b := s.bindings)
    (P := fun history st => (∀ e ∈ history, e.2.messageType ≠ "Commitment") → st.Sound d s
      ∧ st.phase = currentPhase d s st ∧ WithdrawnByProposer d history st)
    ?_ ?_ [] rfl ?_ (along_true s ops) st hst hshort
  · intro history st₁ st₂ hread hst₁
    rw [parts_decode_encode] at hread
    cases hread
    exact hst₁
  · intro history t env nowMs st₁ outcome hbind _ htook hst₁ hnone
    obtain ⟨hsound, -, hwithdrawn⟩ := hst₁ fun e he => hnone e (List.mem_append_left _ he)
    obtain ⟨st₂, phase, hchange, hstate, hphase⟩ := took_change htook
    obtain ⟨ha, hr, hroot, hcount⟩ := (hchange.sound (hsound.congr hbind)).congr hbind.symm
    have hcurrent := hphase (hnone (t, env) (by simp))
    rw [currentPhase_congr hbind] at hcurrent
    rw [hstate]
    exact ⟨⟨ha, hr, hroot, hcount⟩, hcurrent, hchange.withdrawnByProposer hwithdrawn⟩
  · intro st₁ hst₁ _
    rw [(parts_startsWith d).held hbegun (parts_decode_encode d _)] at hst₁
    cases hst₁
    refine ⟨State.default_sound s, ?_, fun id r hr => ?_⟩
    · simp [State.default, currentPhase]
    · simp [State.default] at hr

/-- **The record of a negotiation.**  In every run short of the commitment, accepts and terminal
rejections are about live proposals, the stored phase is the one the rest of the state gives,
supersedes links lead to a proposal without one and so are acyclic, withdrawals were made by their
proposers, and there are at most as many counter-proposals as the policy allows; and whatever
follows, no proposal is removed or edited and a withdrawn one stays withdrawn. -/
theorem proposal_record {prost : Prost} {s : Session}
    (hbegun : SessionBegun prost (parts d).mode s) (ops later : List Op)
    (hshort : ∀ e ∈ acceptedSteps (parts d).mode s ops, e.2.messageType ≠ "Commitment") :
    ∃ st st', (parts d).held (run (parts d).mode s ops) = some st
      ∧ (parts d).held (run (parts d).mode s (ops ++ later)) = some st'
      ∧ st.Sound d (run (parts d).mode s ops)
      ∧ refreshPhase d (run (parts d).mode s ops) st = st
      ∧ (∀ id, ¬ Relation.TransGen st.Supersedes id id)
      ∧ WithdrawnByProposer d (acceptedSteps (parts d).mode s ops) st
      ∧ st.Later st' := by
  have hbind : (run (parts d).mode s ops).bindings = s.bindings := run_bindings s ops
  obtain ⟨st, hst, -⟩ := run_later ((parts_startsWith d).modeState hbegun) ops
  obtain ⟨st', hst', hlater⟩ := run_later hst later
  have hheld := StateMode.held_of_read (parts_decode_encode d st) hst
  obtain ⟨hsound, hphase, hwithdrawn⟩ := run_sound hbegun ops hshort hheld
  rw [run_append]
  refine ⟨st, st', hheld, StateMode.held_of_read (parts_decode_encode d st') hst',
    hsound.congr hbind, ?_, State.acyclic_of_rooted hsound.rooted, hwithdrawn, hlater⟩
  rw [refreshPhase, currentPhase_congr hbind, ← hphase]

/-- A proposal, and its withdrawal. -/
theorem proposal_record_sample :
    ∃ st st', (parts deps).held (run (parts deps).mode sampleSession
          [.step (sampleAbout "Proposal" "m1" "a" []) 10]) = some st
      ∧ (parts deps).held (run (parts deps).mode sampleSession
          ([.step (sampleAbout "Proposal" "m1" "a" []) 10]
            ++ [.step (sampleAbout "Withdraw" "m2" "a" []) 11])) = some st'
      ∧ refreshPhase deps proposed st = st ∧ st.Later st' := by
  have hrun : run (parts deps).mode sampleSession
      [.step (sampleAbout "Proposal" "m1" "a" []) 10] = proposed := by
    rw [run_step step_proposed, run_nil]
  obtain ⟨st, st', hst, hst', -, hphase, -, -, hlater⟩ :=
    proposal_record (.accepted sampleStart_accepted)
      [.step (sampleAbout "Proposal" "m1" "a" []) 10]
      [.step (sampleAbout "Withdraw" "m2" "a" []) 11] (by
        rw [acceptedSteps, acceptedSteps, Op.accepted, step_proposed]
        simp [sampleAbout, sampleMessage])
  rw [hrun] at hphase
  exact ⟨st, st', hst, hst', hphase, hlater⟩

end MacpRuntime.Proposal
