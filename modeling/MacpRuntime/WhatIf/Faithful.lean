import MacpRuntime.Modes.Builtin
import MacpRuntime.Policy.Annotations
import MacpRuntime.Task.DeadEnd
import MacpRuntime.WhatIf.LockStep

/-!
What-if replay over the built-in modes.  Every one but the multi-round mode resolves with the
payload of the commitment, and that one reads no policy; none sees the annotations of a policy.

* `whatIf_faithful`: **the report is the one of the replay, refusals leave no trace, the absence of
  a divergence is an equal outcome, and annotations make no difference**.
-/

namespace MacpRuntime.WhatIf

/-! ### Modes with a typed state -/

section Parts

variable {σ : Type} {m : StateMode σ}

lemma resolution_response (encode : σ → Bytes) (outcome : MacpRuntime.Outcome σ) :
    (outcome.response encode).resolution? = outcome.resolution := by
  unfold Outcome.response
  cases outcome.resolution <;> rfl

/-- A mode resolves with the payload when its message arms do. -/
lemma echoes_of_handle
    (h : ∀ {s env st outcome resolution}, m.handle s env st = .ok outcome →
      outcome.resolution = some resolution → resolution = env.payload) : Echoes m.mode where
  start := by
    intro s env response hstart
    change m.onSessionStart s = .ok response at hstart
    unfold StateMode.onSessionStart at hstart
    split at hstart <;> cases hstart
    rfl
  message := by
    intro s env ctx response resolution hmessage hresolution
    obtain ⟨st, outcome, _, hhandle, rfl⟩ := StateMode.onMessage_eq_ok hmessage
    rw [resolution_response] at hresolution
    exact h hhandle hresolution

/-- A mode is indifferent when its parts are. -/
lemma indifferent_of_parts {p q : Option PolicyDefinition}
    (hstart : ∀ s version, s.policyDefinition = p →
      m.start { s with policyDefinition := q, policyVersion := version } = m.start s)
    (hauthorize : ∀ {s env}, s.policyDefinition = p → m.authorize s env = .ok () →
      m.authorize (s.under q) env = .ok ())
    (hhandle : ∀ {s env st outcome}, s.policyDefinition = p → m.handle s env st = .ok outcome →
      m.handle (s.under q) env st = .ok outcome) : Indifferent m.mode p q where
  start := by
    intro s env response version hp hresponse
    change m.onSessionStart _ = _
    unfold StateMode.onSessionStart
    rw [hstart s version hp]
    exact hresponse
  authorize := hauthorize
  message := by
    intro s env ctx response hp hresponse
    change m.onMessage s env = .ok response at hresponse
    change m.onMessage (s.under q) env = .ok response
    have hsame : m.held (s.under q) = m.held s := rfl
    unfold StateMode.onMessage at hresponse ⊢
    rw [hsame]
    split at hresponse
    · cases hresponse
    · split at hresponse
      · cases hresponse
      · rename_i st hheld
        split at hresponse
        · cases hresponse
        · rename_i outcome hout
          rw [hhandle hp hout]
          exact hresponse

lemma replay_message {prost : Prost} {start : RecordedStart} {s : Session} {env : Envelope}
    {acceptedAtMs : Int64} {opts : ReplayOptions}
    (hstart : replayStart prost start m.mode = .ok s) (hopen : s.state = .Open)
    (hauthorize : m.authorize s env = .ok ())
    (hmessage : ∃ response, m.onMessage s env = .ok response) :
    ∃ s', replay prost start [.Message env acceptedAtMs] m.mode opts = .ok s' := by
  obtain ⟨response, hresponse⟩ := hmessage
  have hsender : m.mode.authorizeSender s env = .ok () := hauthorize
  have hat : m.mode.onMessageAt s env ⟨acceptedAtMs⟩ = .ok response := hresponse
  rw [replay, hstart, Except.ok_bind, applyEvents, List.foldlM_cons, applyEvent, applyEnvelope,
    if_neg (not_not.mpr hopen), hsender]
  dsimp only
  rw [hat]
  exact ⟨_, rfl⟩

end Parts

/-! ### What resolves a session -/

section Echoes

open Decision in
lemma decision_echoes (d : Deps) : Echoes (parts d).mode := by
  refine echoes_of_handle fun {s env st outcome resolution} h hresolution => ?_
  change handle d s env st = .ok outcome at h
  unfold handle handleProposal handleEvaluation
    handleObjection handleVote handleCommitment at h
  dsimp only at h
  repeat' split at h
  all_goals cases h <;> cases hresolution <;> rfl

open Proposal in
lemma proposal_echoes (d : Deps) : Echoes (parts d).mode := by
  refine echoes_of_handle fun {s env st outcome resolution} h hresolution => ?_
  change handle d s env st = .ok outcome at h
  unfold handle handleProposal handleCounterProposal
    handleAccept handleReject handleWithdraw
    handleCommitment store at h
  dsimp only at h
  repeat' split at h
  all_goals cases h <;> cases hresolution <;> rfl

open MacpRuntime.Task in
lemma task_echoes (d : Deps) : Echoes (parts d).mode := by
  refine echoes_of_handle fun {s env st outcome resolution} h hresolution => ?_
  change handle d s env st = .ok outcome at h
  unfold handle handleTaskRequest handleTaskAccept handleTaskReject
    handleTaskUpdate handleTaskComplete handleTaskFail handleCommitment at h
  repeat' split at h
  all_goals cases h <;> cases hresolution <;> rfl

open Quorum in
lemma quorum_echoes (d : Deps) : Echoes (parts d).mode := by
  refine echoes_of_handle fun {s env st outcome resolution} h hresolution => ?_
  change handle d s env st = .ok outcome at h
  unfold handle handleApprovalRequest handleBallot
    handleCommitment at h
  repeat' split at h
  all_goals cases h <;> cases hresolution <;> rfl

lemma handoff_echoes (d : Handoff.Deps) : Echoes (Handoff.mode d) where
  start := by
    intro s env response h
    change Handoff.onSessionStart d s = .ok response at h
    unfold Handoff.onSessionStart at h
    split_ifs at h
    cases h
    rfl
  message := by
    intro s env ctx response resolution h hresolution
    change Handoff.handleMessage d s env _ = .ok response at h
    unfold Handoff.handleMessage Handoff.handleOffer Handoff.handleContext Handoff.handleAccept
      Handoff.dispatchImplicitAccept Handoff.handleDecline Handoff.handleCommitment
      Handoff.persist at h
    dsimp only at h
    repeat' split at h
    all_goals cases h <;> cases hresolution <;> rfl

end Echoes

/-! ### What the modes read of a policy -/

/-- The multi-round mode reads no policy. -/
lemma multiRound_indifferent (d : MultiRound.Deps) (p q : Option PolicyDefinition) :
    Indifferent (MultiRound.parts d).mode p q :=
  indifferent_of_parts (fun _ _ _ => rfl) (fun _ h => h) fun _ h => h

lemma explained_toOption {ρ : Type} (read : Json → Option ρ) (explain : Json → String) (v : Json) :
    (explained read explain v).toOption = read v := by
  unfold explained
  cases read v <;> rfl

section Alike

variable {a : Admission} {p q : PolicyDefinition} {s : Session}

/-- The evaluator of the runtime. -/
def evaluatorOf (a : Admission) : PolicyEvaluator := defaultPolicyEvaluator a.schemas a.render

lemma enforce_under (h : p.Alike a.floats q) (hp : s.policyDefinition = some p)
    {mode : CommitmentMode} {outcomePositive : Bool}
    (hs : enforceCommitmentPolicy (evaluatorOf a) s mode outcomePositive = .ok ()) :
    enforceCommitmentPolicy (evaluatorOf a) (s.under (some q)) mode outcomePositive = .ok () := by
  rw [enforceCommitmentPolicy_eq_ok] at hs ⊢
  rintro policy hpolicy
  cases hpolicy
  exact h.allows_iff.mp (hs p hp)

/-- What comes after a gate that is passed. -/
lemma gate_under {α : Type} {x y : Except MacpError Unit} {rest : Except MacpError α} {a : α}
    (hxy : x = .ok () → y = .ok ())
    (hx : (match x with | .error e => Except.error e | .ok _ => rest) = .ok a) :
    (match y with | .error e => Except.error e | .ok _ => rest) = .ok a := by
  cases x with
  | error e => cases hx
  | ok _ => rwa [hxy rfl]

lemma authority_under (h : p.Alike a.floats q) (hp : s.policyDefinition = some p)
    (sender : String) :
    checkCommitmentAuthority .serde (s.under (some q)) sender
      = checkCommitmentAuthority .serde s sender := by
  unfold checkCommitmentAuthority
  simp only [Session.under, hp, h.commitment]

lemma validate_under (prost : Prost) (s : Session) (policy : Option PolicyDefinition)
    (payload : Bytes) :
    validateCommitmentPayloadForSession prost (s.under policy) payload
      = validateCommitmentPayloadForSession prost s payload := rfl

open Decision in
lemma decision_indifferent (h : p.Alike a.floats q) {d : Deps} (hreader : d.reader = .serde)
    (hevaluator : d.evaluator = evaluatorOf a) :
    Indifferent (parts d).mode (some p) (some q) := by
  refine indifferent_of_parts (fun _ _ _ => rfl) (fun {s env} hp hs => ?_)
    fun {s env st outcome} hp hs => ?_
  · simp only [parts, authorizeSender, hreader] at hs ⊢
    rw [authority_under h hp]
    exact hs
  · change handle d (s.under (some q)) env st = _
    change handle d s env st = _ at hs
    have hcommit (hs : handleCommitment d s env st = .ok outcome) :
        handleCommitment d (s.under (some q)) env st = .ok outcome := by
      unfold handleCommitment at hs ⊢
      rw [validate_under]
      split at hs
      · cases hs
      · split_ifs at hs ⊢
        exact gate_under (hevaluator ▸ enforce_under h hp) hs
    unfold handle at hs ⊢
    split at hs
    · cases hs
    · split_ifs at hs ⊢
      any_goals exact hs
      exact hcommit hs

open Proposal in
lemma proposal_indifferent (h : p.Alike a.floats q) {d : Deps} (hreader : d.reader = .serde)
    (hschemas : d.schemas = a.schemas) (hevaluator : d.evaluator = evaluatorOf a) :
    Indifferent (parts d).mode (some p) (some q) := by
  have hrules {s : Session} (hp : s.policyDefinition = some p) :
      boundRules d (s.under (some q)) = boundRules d s := by
    unfold boundRules RuleSchemas.proposalOrDefault
    simp only [Session.under, hp, hschemas, Admission.schemas, RuleSchemas.serde,
      explained_toOption, h.proposal]
  refine indifferent_of_parts (fun _ _ _ => rfl) (fun {s env} hp hs => ?_)
    fun {s env st outcome} hp hs => ?_
  · simp only [parts, authorizeSender, hreader] at hs ⊢
    rw [authority_under h hp]
    exact hs
  · change handle d (s.under (some q)) env st = _
    change handle d s env st = _ at hs
    have hrefresh (st : State) :
        refreshPhase d (s.under (some q)) st = refreshPhase d s st := by
      unfold refreshPhase currentPhase
      rw [hrules hp]
      rfl
    have hcommit (hs : handleCommitment d s env st = .ok outcome) :
        handleCommitment d (s.under (some q)) env st = .ok outcome := by
      unfold handleCommitment at hs ⊢
      rw [validate_under, hrefresh]
      split at hs
      · cases hs
      · dsimp only at hs ⊢
        split_ifs at hs ⊢
        exact gate_under (hevaluator ▸ enforce_under h hp) hs
    unfold handle at hs ⊢
    split_ifs at hs ⊢
    any_goals exact hcommit hs
    all_goals
      simp only [handleProposal, handleCounterProposal, handleAccept,
        handleReject, handleWithdraw, store, hrefresh,
        hrules hp] at hs ⊢
      exact hs

open MacpRuntime.Task in
lemma task_indifferent (h : p.Alike a.floats q) {d : Deps} (hreader : d.reader = .serde)
    (hschemas : d.schemas = a.schemas) (hevaluator : d.evaluator = evaluatorOf a) :
    Indifferent (parts d).mode (some p) (some q) := by
  have hrules {s : Session} (hp : s.policyDefinition = some p) :
      reassignmentAllowed d (s.under (some q)) = reassignmentAllowed d s := by
    unfold reassignmentAllowed RuleSchemas.taskOrDefault
    simp only [Session.under, hp, hschemas, Admission.schemas, RuleSchemas.serde,
      explained_toOption, h.task]
  refine indifferent_of_parts (fun _ _ _ => rfl) (fun {s env} hp hs => ?_)
    fun {s env st outcome} hp hs => ?_
  · simp only [parts, authorizeSender, hreader] at hs ⊢
    rw [authority_under h hp]
    exact hs
  · change handle d (s.under (some q)) env st = _
    change handle d s env st = _ at hs
    have hcommit (hs : handleCommitment d s env st = .ok outcome) :
        handleCommitment d (s.under (some q)) env st = .ok outcome := by
      unfold handleCommitment at hs ⊢
      rw [validate_under]
      split at hs
      · cases hs
      · change (if st.terminalReport.isNone && !(noEligibleAssignee s st && _) then _
          else _) = _
        split_ifs at hs ⊢
        exact gate_under (hevaluator ▸ enforce_under h hp) hs
    unfold handle at hs ⊢
    split_ifs at hs ⊢
    any_goals exact hcommit hs
    any_goals exact hs
    all_goals
      simp only [handleTaskAccept, handleTaskReject, hrules hp] at hs ⊢
      exact hs

/-- Rules that are read the same up to the signs of zeros give the same threshold. -/
lemma quorum_threshold_congr {x y : Option QuorumPolicyRules}
    (h : x.map QuorumPolicyRules.unsign = y.map QuorumPolicyRules.unsign) (total : ℕ) :
    (x.getD .default).threshold.effective total = (y.getD .default).threshold.effective total := by
  refine QuorumThreshold.effective_congr ?_ total
  obtain ⟨rfl, rfl⟩ | ⟨rules, rules', rfl, rfl, hrules⟩ := FloatText.cases_of_map_eq h
  · rfl
  · exact (congrArg QuorumPolicyRules.threshold hrules :)

open Quorum in
lemma quorum_indifferent (h : p.Alike a.floats q) {d : Deps} (hreader : d.reader = .serde)
    (hschemas : d.schemas = a.schemas) (hevaluator : d.evaluator = evaluatorOf a) :
    Indifferent (parts d).mode (some p) (some q) := by
  have hthreshold {s : Session} (hp : s.policyDefinition = some p) :
      effectiveThreshold d (s.under (some q)) = effectiveThreshold d s := by
    funext request
    unfold effectiveThreshold policyThreshold RuleSchemas.quorumOrDefault
    simp only [Session.under, hp, hschemas, Admission.schemas, RuleSchemas.serde,
      explained_toOption]
    rw [quorum_threshold_congr h.quorum]
  refine indifferent_of_parts (fun _ _ _ => rfl) (fun {s env} hp hs => ?_)
    fun {s env st outcome} hp hs => ?_
  · simp only [parts, authorizeSender, hreader] at hs ⊢
    rw [authority_under h hp]
    exact hs
  · change handle d (s.under (some q)) env st = _
    change handle d s env st = _ at hs
    have hready : commitmentReady d (s.under (some q)) st
        = commitmentReady d s st := by
      unfold commitmentReady
      rw [hthreshold hp]
      rfl
    have hcommit (hs : handleCommitment d s env st = .ok outcome) :
        handleCommitment d (s.under (some q)) env st = .ok outcome := by
      unfold handleCommitment at hs ⊢
      rw [validate_under, hready]
      split at hs
      · cases hs
      · split_ifs at hs ⊢
        exact gate_under (hevaluator ▸ enforce_under h hp) hs
    unfold handle at hs ⊢
    split_ifs at hs ⊢
    any_goals exact hcommit hs
    any_goals exact hs
    all_goals
      simp only [handleApprovalRequest, hthreshold hp] at hs ⊢
      exact hs

lemma handoff_handleMessage_under (h : p.Alike a.floats q) {d : Handoff.Deps}
    (hreader : d.reader = .serde) (hevaluator : d.evaluator = evaluatorOf a) {env : Envelope}
    {clockMs : Int64} {response : ModeResponse} (hp : s.policyDefinition = some p)
    (hs : Handoff.handleMessage d s env clockMs = .ok response) :
    Handoff.handleMessage d (s.under (some q)) env clockMs = .ok response := by
  have hrules : Handoff.policyRules d q = Handoff.policyRules d p := by
    unfold Handoff.policyRules
    simp only [hreader, RulesReader.serde, h.handoff]
  have hinterim (st : Handoff.State) :
      Handoff.interimAccept d (s.under (some q)) clockMs st
        = Handoff.interimAccept d s clockMs st := by
    unfold Handoff.interimAccept
    rw [hp]
    simp only [Session.under, hrules]
    rfl
  have hcommit {st : Handoff.State}
      (hs : Handoff.handleCommitment d s env clockMs st = .ok response) :
      Handoff.handleCommitment d (s.under (some q)) env clockMs st = .ok response := by
    unfold Handoff.handleCommitment at hs ⊢
    rw [validate_under, hinterim]
    split at hs
    · cases hs
    · dsimp only at hs ⊢
      split_ifs at hs ⊢
      exact gate_under (hevaluator ▸ enforce_under h hp) hs
  have hdecode : Handoff.decodeState d (s.under (some q)) = Handoff.decodeState d s := rfl
  unfold Handoff.handleMessage at hs ⊢
  rw [hdecode]
  split at hs
  · cases hs
  · split_ifs at hs ⊢
    · exact hs
    · exact hs
    · exact hs
    · exact hs
    · exact hcommit hs

lemma handoff_indifferent (h : p.Alike a.floats q) {d : Handoff.Deps} (hreader : d.reader = .serde)
    (hevaluator : d.evaluator = evaluatorOf a) :
    Indifferent (Handoff.mode d) (some p) (some q) where
  start := fun _ _ hs => hs
  authorize := by
    intro s env hp hs
    simp only [Handoff.mode, Handoff.authorizeSender, hreader] at hs ⊢
    rw [authority_under h hp]
    exact hs
  message := fun hp hs => handoff_handleMessage_under h hreader hevaluator hp hs

end Alike

/-! ### The built-in modes -/

/-- The built-in modes with the readers that `serde` derives and the runtime's evaluator. -/
inductive Stock (a : Admission) : Mode → Prop
  | decision (d : Decision.Deps) (hreader : d.reader = .serde)
      (hevaluator : d.evaluator = evaluatorOf a) : Stock a (Decision.parts d).mode
  | proposal (d : Proposal.Deps) (hreader : d.reader = .serde) (hschemas : d.schemas = a.schemas)
      (hevaluator : d.evaluator = evaluatorOf a) : Stock a (Proposal.parts d).mode
  | task (d : Task.Deps) (hreader : d.reader = .serde) (hschemas : d.schemas = a.schemas)
      (hevaluator : d.evaluator = evaluatorOf a) : Stock a (Task.parts d).mode
  | handoff (d : Handoff.Deps) (hreader : d.reader = .serde)
      (hevaluator : d.evaluator = evaluatorOf a) : Stock a (Handoff.mode d)
  | quorum (d : Quorum.Deps) (hreader : d.reader = .serde) (hschemas : d.schemas = a.schemas)
      (hevaluator : d.evaluator = evaluatorOf a) : Stock a (Quorum.parts d).mode
  | multiRound (d : MultiRound.Deps) : Stock a (MultiRound.parts d).mode

lemma Stock.indifferent {a : Admission} {mode : Mode} (hmode : Stock a mode)
    {p q : PolicyDefinition} (h : p.Alike a.floats q) : Indifferent mode (some p) (some q) := by
  cases hmode with
  | decision d hreader hevaluator => exact decision_indifferent h hreader hevaluator
  | proposal d hreader hschemas hevaluator =>
    exact proposal_indifferent h hreader hschemas hevaluator
  | task d hreader hschemas hevaluator => exact task_indifferent h hreader hschemas hevaluator
  | handoff d hreader hevaluator => exact handoff_indifferent h hreader hevaluator
  | quorum d hreader hschemas hevaluator => exact quorum_indifferent h hreader hschemas hevaluator
  | multiRound d => exact multiRound_indifferent d _ _

/-- A built-in mode resolves with the payload, or reads no policy. -/
lemma echoes_or_indifferent {mode : Mode} (hmode : Builtin mode) :
    Echoes mode ∨ ∀ p q, Indifferent mode p q := by
  cases hmode with
  | decision d => exact .inl (decision_echoes d)
  | proposal d => exact .inl (proposal_echoes d)
  | task d => exact .inl (task_echoes d)
  | handoff d => exact .inl (handoff_echoes d)
  | quorum d => exact .inl (quorum_echoes d)
  | multiRound d => exact .inr (multiRound_indifferent d)

/-! ### Reports -/

section Reports

variable {prost : Prost} {start : RecordedStart} {events : List ReplayEvent} {mode : Mode}
  {opts : ReplayOptions} {candidate : PolicyDefinition} {report : WhatIfReport}

/-- A report is the one of two replays that ran side by side. -/
lemma replayUnderPolicy_eq_ok :
    replayUnderPolicy prost start events mode opts candidate = .ok report ↔
      ∃ recorded progress, replayStart prost start mode = .ok recorded
        ∧ observeAll mode opts 0 events (begin prost start mode candidate recorded) = .ok progress
        ∧ report = progress.report start candidate := by
  simp only [replayUnderPolicy, Except.bind_eq_ok_iff, Except.pure_eq_ok, Except.ok.injEq]
  constructor
  · rintro ⟨recorded, hstart, progress, hobserve, rfl⟩
    exact ⟨recorded, progress, hstart, hobserve, rfl⟩
  · rintro ⟨recorded, progress, hstart, hobserve, rfl⟩
    exact ⟨recorded, hstart, progress, hobserve, rfl⟩

lemma begin_recorded (recorded : Session) :
    (begin prost start mode candidate recorded).recorded = recorded := by
  unfold begin
  split <;> rfl

/-- A replay that succeeds is reported. -/
lemma report_of_replay {s : Session} (h : replay prost start events mode opts = .ok s) :
    ∃ report, replayUnderPolicy prost start events mode opts candidate = .ok report
      ∧ report.recorded.state = some s.state ∧ report.recorded.resolution = s.resolution := by
  simp only [replay, Except.bind_eq_ok_iff] at h
  obtain ⟨recorded, hstart, hevents⟩ := h
  have hside : (observeAll mode opts 0 events (begin prost start mode candidate recorded)).map
      (·.recorded) = .ok s := by
    rw [observeAll_recorded, begin_recorded, hevents]
  cases hobserve : observeAll mode opts 0 events (begin prost start mode candidate recorded) with
  | error e =>
    rw [hobserve] at hside
    cases hside
  | ok progress =>
    rw [hobserve] at hside
    have hs : progress.recorded = s := Except.ok.inj hside
    refine ⟨_, replayUnderPolicy_eq_ok.mpr ⟨recorded, progress, hstart, hobserve, rfl⟩, ?_⟩
    rw [← hs]
    exact ⟨rfl, rfl⟩

/-- A history that ends in one event more: the report has one entry more, and if the candidate
refuses the event its session is the one of the shorter history. -/
lemma report_concat {event : ReplayEvent}
    (h : replayUnderPolicy prost start (events ++ [event]) mode opts candidate = .ok report) :
    ∃ before entry, replayUnderPolicy prost start events mode opts candidate = .ok before
      ∧ report.entries = before.entries ++ [entry]
      ∧ ∀ code reasons, entry.candidate = .Refused code reasons →
        report.candidateSession = before.candidateSession := by
  obtain ⟨recorded, progress, hstart, hobserve, rfl⟩ := replayUnderPolicy_eq_ok.mp h
  rw [observeAll_append] at hobserve
  obtain ⟨earlier, hearlier, hlast⟩ := Except.bind_eq_ok_iff.mp hobserve
  rw [observeAll_singleton] at hlast
  obtain ⟨session, -, rfl⟩ := observe_eq_ok hlast
  exact ⟨_, _, replayUnderPolicy_eq_ok.mpr ⟨recorded, earlier, hstart, hearlier, rfl⟩, rfl,
    fun code reasons hrefused => seen_refused hrefused⟩

/-- A shorter history is reported too, with the first of the entries. -/
lemma report_prefix {before : List ReplayEvent} (hbefore : before <+: events)
    (h : replayUnderPolicy prost start events mode opts candidate = .ok report) :
    ∃ earlier, replayUnderPolicy prost start before mode opts candidate = .ok earlier
      ∧ earlier.entries <+: report.entries := by
  obtain ⟨rest, rfl⟩ := hbefore
  obtain ⟨recorded, progress, hstart, hobserve, rfl⟩ := replayUnderPolicy_eq_ok.mp h
  rw [observeAll_append] at hobserve
  obtain ⟨earlier, hearlier, hrest⟩ := Except.bind_eq_ok_iff.mp hobserve
  exact ⟨_, replayUnderPolicy_eq_ok.mpr ⟨recorded, earlier, hstart, hearlier, rfl⟩,
    observeAll_entries hrest⟩

/-- Without a divergence the outcomes are equal. -/
lemma outcome_of_no_divergence (hmode : Builtin mode)
    (h : replayUnderPolicy prost start events mode opts candidate = .ok report)
    (hnone : report.firstDivergence = none) : report.recorded = report.candidate := by
  obtain ⟨recorded, progress, hstart, hobserve, rfl⟩ := replayUnderPolicy_eq_ok.mp h
  have hagrees := firstDivergence_eq_none_iff.mp hnone
  have hbegin : (begin prost start mode candidate recorded).Agrees := fun entry hentry =>
    hagrees entry ((observeAll_entries hobserve).subset hentry)
  rcases echoes_or_indifferent hmode with hechoes | hindifferent
  · have htracks : Tracks mode opts _ := hechoes.tracks
    exact htracks.outcome_eq
      (htracks.observeAll (hechoes.together_begin hstart hbegin) hobserve hagrees) _ _
  · have hmode := hindifferent start.policy (some candidate)
    have htracks : Tracks mode opts _ := hmode.tracks
    exact htracks.outcome_eq
      (htracks.observeAll (hmode.together_begin hstart) hobserve hagrees) _ _

/-- Under a candidate that the mode cannot tell from the recorded policy nothing diverges. -/
lemma no_divergence_of_indifferent (hmode : Indifferent mode start.policy (some candidate))
    (h : replayUnderPolicy prost start events mode opts candidate = .ok report) :
    report.firstDivergence = none ∧ report.denials = [] := by
  obtain ⟨recorded, progress, hstart, hobserve, rfl⟩ := replayUnderPolicy_eq_ok.mp h
  have hparallel := hmode.observeAll (hmode.parallel_begin hstart) hobserve
  exact ⟨firstDivergence_eq_none_iff.mpr hparallel.agrees, hparallel.denials⟩

end Reports

/-- **What-if replay is faithful.**  A history that replays is reported; the recorded outcome is
the one of the replay; an entry that the candidate refuses leaves the candidate's session as it
was; without a divergence the two outcomes are equal; and a candidate that differs from the
recorded policy in annotations diverges nowhere, denies nothing and changes no outcome. -/
theorem whatIf_faithful (mode : Mode) (hmode : Builtin mode) (prost : Prost)
    (start : RecordedStart) (events : List ReplayEvent) (opts : ReplayOptions) (s : Session)
    (hreplay : replay prost start events mode opts = .ok s) (candidate : PolicyDefinition) :
    ∃ report, replayUnderPolicy prost start events mode opts candidate = .ok report
      ∧ (report.recorded.state = some s.state ∧ report.recorded.resolution = s.resolution)
      ∧ (∀ before event, before ++ [event] <+: events →
        ∃ earlier later entry,
          replayUnderPolicy prost start before mode opts candidate = .ok earlier
          ∧ replayUnderPolicy prost start (before ++ [event]) mode opts candidate = .ok later
          ∧ later.entries = earlier.entries ++ [entry] ∧ later.entries <+: report.entries
          ∧ ∀ code reasons, entry.candidate = .Refused code reasons →
            later.candidateSession = earlier.candidateSession)
      ∧ (report.firstDivergence = none → report.recorded = report.candidate)
      ∧ ∀ a, Stock a mode → ∀ recorded, start.policy = some recorded →
        recorded.Alike a.floats candidate →
        report.firstDivergence = none ∧ report.denials = [] ∧ report.outcomeChanged = false := by
  obtain ⟨report, hreport, hstate, hresolution⟩ := report_of_replay hreplay
  refine ⟨report, hreport, ⟨hstate, hresolution⟩, fun before event hbefore => ?_,
    outcome_of_no_divergence hmode hreport, fun a hstock recorded hrecorded halike => ?_⟩
  · obtain ⟨later, hlater, hentries⟩ := report_prefix hbefore hreport
    obtain ⟨earlier, entry, hearlier, hentry, hrefused⟩ := report_concat hlater
    exact ⟨earlier, later, entry, hearlier, hlater, hentry, hentries, hrefused⟩
  · have hindifferent := hstock.indifferent halike
    rw [← hrecorded] at hindifferent
    obtain ⟨hnone, hdenials⟩ := no_divergence_of_indifferent hindifferent hreport
    refine ⟨hnone, hdenials, ?_⟩
    rw [WhatIfReport.outcomeChanged, bne_eq_false_iff_eq]
    exact outcome_of_no_divergence hmode hreport hnone

/-! ### A task under an annotated policy -/

/-- The mode with the derived readers. -/
def stockDeps : Task.Deps := { Task.admittedDeps with reader := .serde }

/-- The policy of the sample task with a note, under another id. -/
def annotatedPolicy : PolicyDefinition :=
  { Task.reassignPolicy with
    policyId := "q"
    rules := .object [("_note", .string "n"),
      ("assignment", .object [("$ref", .null), ("allow_reassignment_on_reject", .bool true)])] }

/-- The record of a start. -/
def sampleRecord : RecordedStart where
  envelope := sampleStartOf "macp.mode.task.v1"
  acceptedAtMs := 5
  semanticsRev := currentSemanticsRev
  maxSuspendMs := maxSuspendMs
  boundModeVersion := none
  policy := some Task.reassignPolicy
  strict := none

lemma sampleRecord_begins :
    replayStart stockDeps.prost sampleRecord (Task.parts stockDeps).mode
      = .ok Task.sampleSession := by
  rfl

lemma sampleSession_open : Task.sampleSession.state = .Open := rfl

lemma sampleRequest_authorized :
    (Task.parts stockDeps).authorize Task.sampleSession (Task.sampleAbout "TaskRequest" "m1" "a")
      = .ok () := rfl

lemma sampleRequest_handled :
    ∃ response, (Task.parts stockDeps).onMessage Task.sampleSession
      (Task.sampleAbout "TaskRequest" "m1" "a") = .ok response := by
  unfold StateMode.onMessage
  rw [Task.held_of_begun (.rebuilt sampleRecord_begins)]
  exact ⟨_, rfl⟩

/-- The request of a task, accepted at clock 10. -/
def sampleEvents : List ReplayEvent := [.Message (Task.sampleAbout "TaskRequest" "m1" "a") 10]

lemma sampleRecord_replays :
    ∃ s, replay stockDeps.prost sampleRecord sampleEvents (Task.parts stockDeps).mode {}
      = .ok s := by
  rw [sampleEvents]
  exact replay_message sampleRecord_begins sampleSession_open sampleRequest_authorized
    sampleRequest_handled

theorem whatIf_faithful_sample :
    ∃ report, replayUnderPolicy stockDeps.prost sampleRecord sampleEvents
        (Task.parts stockDeps).mode {} annotatedPolicy = .ok report
      ∧ report.firstDivergence = none ∧ report.denials = [] ∧ report.outcomeChanged = false := by
  obtain ⟨s, hreplay⟩ := sampleRecord_replays
  obtain ⟨report, hreport, _, _, _, hannotations⟩ := whatIf_faithful _ (.task stockDeps)
    stockDeps.prost sampleRecord sampleEvents {} s hreplay annotatedPolicy
  exact ⟨report, hreport, hannotations .plain (.task stockDeps rfl rfl rfl) _ rfl
    ⟨rfl, rfl, by decide⟩⟩

end MacpRuntime.WhatIf
