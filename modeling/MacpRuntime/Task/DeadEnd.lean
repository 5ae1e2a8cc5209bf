import MacpRuntime.Policy.Soundness
import MacpRuntime.Task.Integrity

/-!
How a task that nobody will take can still be ended.

* `negative_commitment_iff`: **without a report and an assignee, a negative commitment is accepted
  if and only if the request named an assignee and this assignee declined before it took the task**.
  Where it is refused and nobody is left to take the task, no message is accepted any more and the
  session is never resolved (`DeadEnd`);
* `open_task_dead_end`: an open request that all participants decline is such a session.
-/

namespace MacpRuntime.Task

variable {d : Deps}

/-! ### Exhausted tasks -/

/-- Nobody holds the task, and everybody who may take it has declined. -/
def Exhausted (b : Session.Bindings) (st : State) : Prop :=
  st.activeAssignee = none ∧ ∃ task, st.task = some task ∧
    ∀ p, Eligible b task p → ∃ r ∈ st.rejections, r.assignee = p

/-- An exhausted task takes commitments only, and they leave it as it is. -/
lemma Change.exhausted {s : Session} {env : Envelope} {st st' : State} (h : Change d s env st st')
    (hrev : 4 ≤ s.semanticsRev) (hst : Exhausted s.bindings st) :
    env.messageType = "Commitment" := by
  obtain ⟨hfree, task, htask, hdeclined⟩ := hst
  cases h with
  | request _ hnone => simp [hnone] at htask
  | accept _ htask' _ hclean heligible =>
    cases htask.symm.trans htask'
    obtain ⟨r, hr, hsender⟩ := hdeclined _ heligible
    exact absurd hsender (hclean hrev r hr)
  | reject _ _ hfirst heligible _ =>
    obtain ⟨task', htask', heligible⟩ := heligible hfree
    cases htask.symm.trans htask'
    obtain ⟨r, hr, hsender⟩ := hdeclined _ heligible
    exact absurd hsender (hfirst r hr)
  | update _ _ hactive => simp [hfree] at hactive
  | report _ _ hactive _ => simp [hfree] at hactive
  | commit htype => exact htype

/-! ### Negative commitments -/

/-- The named assignee declined before it took the task. -/
def NamedDecline (task : TaskRecord) (st : State) : Prop :=
  task.requestedAssignee ≠ "" ∧
    ∃ r ∈ st.rejections, r.assignee = task.requestedAssignee ∧ r.whileAssigned = false

lemma noEligibleAssignee_iff {t : Session} {st : State} {task : TaskRecord}
    (hrev : 4 ≤ t.semanticsRev) (htask : st.task = some task) (hfree : st.activeAssignee = none) :
    noEligibleAssignee t st = true ↔ NamedDecline task st := by
  unfold noEligibleAssignee NamedDecline
  have hrev' : personalDeclineRev ≤ t.semanticsRev := hrev
  simp [htask, hfree, hrev']

/-- Nobody is left to take the task, there is no report, and the decline is not the one that a
negative commitment may answer. -/
structure DeadEnd (b : Session.Bindings) (st : State) : Prop where
  exhausted : Exhausted b st
  unreported : st.terminalReport = none
  undeclined : ∀ task, st.task = some task → ¬ NamedDecline task st

/-- No message is accepted on a dead end. -/
lemma DeadEnd.not_took {t : Session} {env : Envelope} {st : State} {outcome : Outcome State}
    (h : DeadEnd t.bindings st) (hrev : 4 ≤ t.semanticsRev) :
    ¬ (parts d).Took t env st outcome := by
  intro htook
  have htype := (took_change htook).exhausted hrev h.exhausted
  obtain ⟨hfree, task, htask, -⟩ := h.exhausted
  have hnobody : noEligibleAssignee t st = false := by
    rw [Bool.eq_false_iff, Ne, noEligibleAssignee_iff hrev htask hfree]
    exact h.undeclined task htask
  have hhandled : handle d t env st = .ok outcome := htook.handled
  simp [handle, htype, handleCommitment, h.unreported, hnobody] at hhandled
  split at hhandled <;> cases hhandled

/-- **A dead end stays one**: whatever is tried, nothing is accepted and nothing is resolved. -/
theorem DeadEnd.run {t : Session} (hrev : 4 ≤ t.semanticsRev) (hopen : t.state ≠ .Resolved)
    (h : ∀ st, (parts d).held t = some st → DeadEnd t.bindings st) (ops : List Op) :
    acceptedSteps (parts d).mode t ops = [] ∧ (run (parts d).mode t ops).state ≠ .Resolved := by
  induction ops generalizing t with
  | nil => exact ⟨rfl, hopen⟩
  | cons op ops ih =>
    have hnot {env : Envelope} {st : State} {outcome : Outcome State} :
        ¬ (parts d).Took t env st outcome := fun htook =>
      (h st htook.held).not_took hrev htook
    rcases StateMode.apply_cases (parts d) t op with ⟨hsame, hnone⟩ | ⟨_, _, _, _, _, _, htook, _⟩
    swap
    · exact absurd htook hnot
    have hbind : (op.apply (parts d).mode t).bindings = t.bindings :=
      (op.apply_moves t).bindings_eq
    rw [acceptedSteps, hnone, List.nil_append, run_cons]
    refine ih (hrev.trans_eq (congrArg Session.Bindings.semanticsRev hbind.symm)) ?_ ?_
    · intro hresolved
      rcases StateMode.apply_resolved hresolved with hbefore | ⟨_, _, _, _, _, _, htook, _⟩
      · exact hopen hbefore
      · exact hnot htook
    · rw [hbind, StateMode.held, hsame]
      exact h

/-- No continuation makes an accept acceptable. -/
def Stuck (d : Deps) (t : Session) : Prop :=
  ∀ ops env nowMs state synthesized, env.messageType = "TaskAccept" →
    (step (run (parts d).mode t ops) env (parts d).mode nowMs).2 ≠ .ok (.Accepted state synthesized)

lemma stuck_of_accepted_nil {t : Session} (h : ∀ ops, acceptedSteps (parts d).mode t ops = []) :
    Stuck d t := by
  intro ops env nowMs state synthesized _ haccepted
  have hnil := h (ops ++ [.step env nowMs])
  rw [acceptedSteps_append, acceptedSteps, Op.accepted, haccepted] at hnil
  simp at hnil

/-- The policy of a task session lets every negative commitment through. -/
lemma enforce_negative {a : Admission} {t : Session} {output : Bool}
    (hevaluator : d.evaluator = defaultPolicyEvaluator a.schemas a.render)
    (hpolicy : ∀ policy, t.policyDefinition = some policy →
      Admissible a policy ∧ policy.Binds "macp.mode.task.v1") :
    enforceCommitmentPolicy d.evaluator t (.Task output) false = .ok () := by
  rw [enforceCommitmentPolicy_eq_ok, hevaluator]
  intro policy hp
  obtain ⟨hadm, hbinds⟩ := hpolicy policy hp
  obtain ⟨rules, hrules⟩ :=
    Admissible.map_unit_ok (hadm.parsesForMode hbinds (by simp [standardsTrackPolicyModes]))
  simp only [defaultPolicyEvaluator, evaluateTaskCommitmentOutcome,
    withRules_eq hadm.supported hrules, Findings.conclude_allows, Bool.false_eq_true, if_false]
  split_ifs <;> rfl

/-- **Ending a task nobody has taken**: in every state of a session at revision 4 or later with a
requested task, no report and no assignee, a well-formed negative commitment by somebody with the
authority for it is accepted if and only if the request named an assignee and this assignee
declined before it took the task.  If it is refused and everybody who may take the task has
declined, no continuation accepts any message, nor does it resolve the session: it can only be
cancelled or expire. -/
theorem negative_commitment_iff (d : Deps) (a : Admission)
    (hevaluator : d.evaluator = defaultPolicyEvaluator a.schemas a.render) (t : Session)
    (hrev : 4 ≤ t.semanticsRev)
    (hpolicy : ∀ policy, t.policyDefinition = some policy →
      Admissible a policy ∧ policy.Binds "macp.mode.task.v1") (st : State)
    (hst : (parts d).held t = some st) (task : TaskRecord) (htask : st.task = some task)
    (hreport : st.terminalReport = none) (hfree : st.activeAssignee = none) (env : Envelope)
    (nowMs : Int64) (htype : env.messageType = "Commitment")
    (hpre : checkPreconditions t env nowMs = .ok .Proceed)
    (hauthority : checkCommitmentAuthority d.reader t env.sender = .ok ())
    (commitment : CommitmentPayload)
    (hvalid : validateCommitmentPayloadForSession d.prost t env.payload = .ok commitment)
    (hnegative : commitment.outcomePositive = false) :
    ((∃ state, (step t env (parts d).mode nowMs).2 = .ok (.Accepted state [])) ↔
        NamedDecline task st)
      ∧ (¬ NamedDecline task st →
        (∀ p, Eligible t.bindings task p → ∃ r ∈ st.rejections, r.assignee = p) →
        ∀ ops, acceptedSteps (parts d).mode t ops = []
          ∧ (run (parts d).mode t ops).state ≠ .Resolved) := by
  refine ⟨?_, fun hundeclined hdeclined ops => ?_⟩
  swap
  · have hopen : t.state = .Open := (checkPreconditions_eq_proceed hpre).2.2.2
    refine DeadEnd.run hrev (by simp [hopen]) (fun st' hst' => ?_) ops
    cases hst.symm.trans hst'
    exact ⟨⟨hfree, task, htask, hdeclined⟩, hreport, fun task' htask' => by
      cases htask.symm.trans htask'
      exact hundeclined⟩
  rw [← noEligibleAssignee_iff hrev htask hfree]
  constructor
  · rintro ⟨state, haccepted⟩
    obtain ⟨st', outcome, htook, -⟩ := StateMode.step_accepted haccepted
    cases hst.symm.trans htook.held
    have hhandled : handle d t env st = .ok outcome := htook.handled
    simp [handle, htype, handleCommitment, hvalid, hreport, hnegative] at hhandled
    by_contra hno
    rw [if_pos (by simpa using hno)] at hhandled
    cases hhandled
  · intro hdeclined
    have hhandle : (parts d).handle t env st = .ok ⟨st, some env.payload⟩ := by
      change handle d t env st = _
      simp [handle, htype, handleCommitment, hvalid, hreport, hnegative, hdeclined,
        enforce_negative hevaluator hpolicy]
    have hauth : (parts d).authorize t env = .ok () := by
      change authorizeSender d t env = _
      simpa [authorizeSender, htype] using hauthority
    rw [StateMode.step_eq hst hpre hauth rfl hhandle]
    exact ⟨_, rfl⟩

/-! ### Two declined tasks -/

/-- The mode with the readers and the evaluator of the registry's rules. -/
def admittedDeps : Deps :=
  { deps with
    schemas := Admission.plain.schemas
    evaluator := defaultPolicyEvaluator Admission.plain.schemas Admission.plain.render }

lemma reassignPolicy_registered :
    ∃ registry, (Admission.plain.registry ∅).register reassignPolicy = .ok registry :=
  Except.exists_eq_ok_of_toBool (by decide +kernel)

lemma admittedSession_begun :
    SessionBegun admittedDeps.prost (parts admittedDeps).mode sampleSession :=
  .accepted (by rfl :
    acceptSessionStart protobuf (sampleStartOf "macp.mode.task.v1") 5 (parts admittedDeps).mode
      (some reassignPolicy) {} = .ok sampleSession)

/-- The state after an open request (`named` is empty) or one for `named`, and some declines. -/
def declinedState (named : String) (decliners : List String) : State where
  task := some ⟨"t", "", "", named, [], 0, "a"⟩
  activeAssignee := none
  rejections := decliners.map fun p => ⟨"t", p, "", false⟩
  updates := []
  terminalReport := none

lemma held_declinedState (s : Session) (env : Envelope) (nowMs : Int64) (named : String)
    (decliners : List String) :
    (parts admittedDeps).held ((parts admittedDeps).after s env (declinedState named decliners)
      nowMs) = some (declinedState named decliners) :=
  StateMode.held_after (parts_decode_encode _ _)

/-- A request for `b`. -/
def requestForB : Envelope :=
  sampleMessage "macp.mode.task.v1" "TaskRequest" "m1" "a" [0x0A, 1, 116, 0x22, 1, 98]

/-- The session after a request, and after the declines of some participants, last first. -/
def declinedSession (request : Envelope) (named : String) : List String → Session
  | [] => (parts admittedDeps).after sampleSession request (declinedState named []) 10
  | p :: ps => (parts admittedDeps).after (declinedSession request named ps)
      (sampleAbout "TaskReject" ("m" ++ p) p) (declinedState named (ps.reverse ++ [p])) 11

lemma held_declinedSession (request : Envelope) (named : String) (decliners : List String) :
    (parts admittedDeps).held (declinedSession request named decliners)
      = some (declinedState named decliners.reverse) := by
  cases decliners with
  | nil => exact held_declinedState _ _ _ _ _
  | cons p ps =>
    rw [List.reverse_cons]
    exact held_declinedState _ _ _ _ _

/-- The open request, and the declines of both participants who may take it. -/
def declinedOps : List Op :=
  [.step (sampleAbout "TaskRequest" "m1" "a") 10, .step (sampleAbout "TaskReject" "mb" "b") 11,
    .step (sampleAbout "TaskReject" "mc" "c") 11]

lemma run_declined :
    run (parts admittedDeps).mode sampleSession declinedOps
      = declinedSession (sampleAbout "TaskRequest" "m1" "a") "" ["c", "b"] := by
  have h₁ : step sampleSession (sampleAbout "TaskRequest" "m1" "a") (parts admittedDeps).mode 10
      = (declinedSession (sampleAbout "TaskRequest" "m1" "a") "" [], .ok (.Accepted .Open [])) :=
    StateMode.step_eq (held_of_begun admittedSession_begun) rfl rfl rfl rfl
  have h₂ : step (declinedSession (sampleAbout "TaskRequest" "m1" "a") "" [])
      (sampleAbout "TaskReject" "mb" "b") (parts admittedDeps).mode 11
      = (declinedSession (sampleAbout "TaskRequest" "m1" "a") "" ["b"],
        .ok (.Accepted .Open [])) :=
    StateMode.step_eq (held_declinedSession _ _ _) rfl rfl rfl rfl
  have h₃ : step (declinedSession (sampleAbout "TaskRequest" "m1" "a") "" ["b"])
      (sampleAbout "TaskReject" "mc" "c") (parts admittedDeps).mode 11
      = (declinedSession (sampleAbout "TaskRequest" "m1" "a") "" ["c", "b"],
        .ok (.Accepted .Open [])) :=
    StateMode.step_eq (held_declinedSession _ _ _) rfl rfl rfl rfl
  rw [declinedOps, run_step h₁, run_step h₂, run_step h₃, run_nil]

/-- A negative commitment of the initiator, under the policy `p`. -/
def sampleDecline : Envelope :=
  sampleMessage "macp.mode.task.v1" "Commitment" "m9" "a"
    [0x0A, 1, 99, 0x12, 1, 120, 0x1A, 1, 115, 0x22, 1, 114, 0x2A, 1, 49, 0x32, 1, 112, 0x3A, 1, 49]

lemma validate_after (s : Session) (env : Envelope) (st : State) (nowMs : Int64) (payload : Bytes) :
    validateCommitmentPayloadForSession admittedDeps.prost
        ((parts admittedDeps).after s env st nowMs) payload
      = validateCommitmentPayloadForSession admittedDeps.prost s payload := rfl

lemma sampleDecline_valid (request : Envelope) (named : String) (decliners : List String) :
    ∃ commitment, validateCommitmentPayloadForSession admittedDeps.prost
        (declinedSession request named decliners) sampleDecline.payload = .ok commitment
      ∧ commitment.outcomePositive = false := by
  induction decliners with
  | nil =>
    refine ⟨_, rfl, ?_⟩
    rfl
  | cons p ps ih =>
    rw [declinedSession, validate_after]
    exact ih

lemma admissible_of_sample {policy : PolicyDefinition} (h : some reassignPolicy = some policy) :
    Admissible Admission.plain policy ∧ policy.Binds "macp.mode.task.v1" := by
  cases h
  obtain ⟨registry, hregistered⟩ := reassignPolicy_registered
  exact ⟨admissible_of_register hregistered, .inl rfl⟩

/-- The session after both participants declined the open request. -/
def abandoned : Session := declinedSession (sampleAbout "TaskRequest" "m1" "a") "" ["c", "b"]

lemma abandoned_declined {p : String}
    (h : Eligible abandoned.bindings ⟨"t", "", "", "", [], 0, "a"⟩ p) :
    ∃ r ∈ (declinedState "" ["b", "c"]).rejections, r.assignee = p := by
  obtain ⟨hmem, hne⟩ := h
  rcases List.mem_cons.mp hmem with rfl | hmem
  · exact absurd rfl hne
  · simp only [List.mem_cons, List.not_mem_nil, or_false] at hmem
    rcases hmem with rfl | rfl <;> simp [declinedState]

/-- The named assignee declines, and the initiator ends the session; an open request that both
participants declined accepts nothing any more. -/
theorem negative_commitment_named :
    (∃ state, (step (declinedSession requestForB "b" ["b"]) sampleDecline (parts admittedDeps).mode
      12).2 = .ok (.Accepted state []))
      ∧ ∀ ops, acceptedSteps (parts admittedDeps).mode abandoned ops = []
        ∧ (run (parts admittedDeps).mode abandoned ops).state ≠ .Resolved := by
  constructor
  · obtain ⟨commitment, hvalid, hnegative⟩ := sampleDecline_valid requestForB "b" ["b"]
    exact (negative_commitment_iff admittedDeps Admission.plain rfl _ (by decide)
      (fun policy => admissible_of_sample) _ (held_declinedSession _ _ _) _ rfl rfl rfl
      sampleDecline 12 rfl rfl rfl commitment hvalid hnegative).1.mpr
        ⟨by decide, _, List.mem_cons_self, rfl, rfl⟩
  · obtain ⟨commitment, hvalid, hnegative⟩ :=
      sampleDecline_valid (sampleAbout "TaskRequest" "m1" "a") "" ["c", "b"]
    exact (negative_commitment_iff admittedDeps Admission.plain rfl abandoned (by decide)
      (fun policy => admissible_of_sample) _ (held_declinedSession _ _ _) _ rfl rfl rfl
      sampleDecline 12 rfl rfl rfl commitment hvalid hnegative).2 (fun h => h.1 rfl)
        fun p => abandoned_declined

/-- An open request that both participants decline: no accept can follow, the negative commitment
of the initiator is refused, and so is every message to come. -/
theorem open_task_dead_end :
    SessionBegun admittedDeps.prost (parts admittedDeps).mode sampleSession
      ∧ 4 ≤ sampleSession.semanticsRev
      ∧ (∃ registry, (Admission.plain.registry ∅).register reassignPolicy = .ok registry)
      ∧ run (parts admittedDeps).mode sampleSession declinedOps = abandoned
      ∧ (parts admittedDeps).held abandoned = some (declinedState "" ["b", "c"])
      ∧ Stuck admittedDeps abandoned
      ∧ checkCommitmentAuthority admittedDeps.reader abandoned sampleDecline.sender = .ok ()
      ∧ (∃ commitment, validateCommitmentPayloadForSession admittedDeps.prost abandoned
          sampleDecline.payload = .ok commitment ∧ commitment.outcomePositive = false)
      ∧ (step abandoned sampleDecline (parts admittedDeps).mode 12).2 = .error .InvalidPayload
      ∧ ∀ ops, acceptedSteps (parts admittedDeps).mode abandoned ops = [] := by
  have hheld : (parts admittedDeps).held abandoned = some (declinedState "" ["b", "c"]) :=
    held_declinedSession _ _ _
  have hdead (st : State) (hst : (parts admittedDeps).held abandoned = some st) :
      DeadEnd abandoned.bindings st := by
    cases hheld.symm.trans hst
    refine ⟨⟨rfl, _, rfl, fun p => abandoned_declined⟩, rfl, ?_⟩
    rintro task ⟨⟩ ⟨hnamed, -⟩
    exact hnamed rfl
  have hnil (ops : List Op) : acceptedSteps (parts admittedDeps).mode abandoned ops = [] :=
    (DeadEnd.run (by decide) (by decide) hdead ops).1
  exact ⟨admittedSession_begun, by decide, reassignPolicy_registered, run_declined, hheld,
    stuck_of_accepted_nil hnil, rfl, sampleDecline_valid _ _ _,
    StateMode.step_eq_error hheld rfl rfl rfl rfl, hnil⟩

end MacpRuntime.Task
