import MacpRuntime.Core.Messages
import MacpRuntime.Task.Mode

/-!
Assignments and reports of the task mode over whole runs.

* `State.Sound`: the active assignee was asked and never rejected, and a terminal report is the
  active assignee's;
* `Recorded`: every rejection is on record, and the updates are those of the accepted messages;
* `Assigned`: the sender of a message was the active assignee when it came;
* `task_integrity`: **all of it along every run** at revision 4 or later in which no active assignee
  gives the task back once the report is there, and a report stays.  Otherwise the report is
  orphaned (`report_orphaned`).
-/

namespace MacpRuntime.Task

variable {d : Deps}

/-! ### What one message changes -/

/-- The participant may take the task: it was named, or the request is open and it is a declared
participant other than the initiator. -/
def Eligible (b : Session.Bindings) (task : TaskRecord) (sender : String) : Prop :=
  if task.requestedAssignee = "" then sender ∈ b.participants ∧ sender ≠ b.initiatorSender
  else sender = task.requestedAssignee

/-- The changes an accepted message can make. -/
inductive Change (d : Deps) (s : Session) (env : Envelope) (st : State) : State → Prop
  | request {task : TaskRecord} (htype : env.messageType = "TaskRequest")
      (hnone : st.task = none) : Change d s env st { st with task := some task }
  | accept {task : TaskRecord} (htype : env.messageType = "TaskAccept")
      (htask : st.task = some task) (hfree : st.activeAssignee = none)
      (hclean : 4 ≤ s.semanticsRev → ∀ r ∈ st.rejections, r.assignee ≠ env.sender)
      (heligible : Eligible s.bindings task env.sender) :
      Change d s env st { st with activeAssignee := some env.sender }
  | reject {r : TaskRejectRecord} (htype : env.messageType = "TaskReject")
      (hfree : st.activeAssignee = none ∨
        st.activeAssignee = some env.sender ∧ reassignmentAllowed d s = true)
      (hfirst : ∀ r' ∈ st.rejections, r'.assignee ≠ env.sender)
      (heligible : st.activeAssignee = none →
        ∃ task, st.task = some task ∧ Eligible s.bindings task env.sender)
      (hr : r.assignee = env.sender) :
      Change d s env st { st with activeAssignee := none, rejections := st.rejections ++ [r] }
  | update {p : TaskUpdatePayload} (htype : env.messageType = "TaskUpdate")
      (hpayload : d.decodeTaskUpdate env.payload = some p)
      (hactive : st.activeAssignee = some env.sender) :
      Change d s env st { st with updates := st.updates ++
        [⟨p.taskId, p.status, p.progress, p.message, p.partialOutput, env.sender⟩] }
  | report {r : TaskTerminalReport}
      (htype : env.messageType = "TaskComplete" ∨ env.messageType = "TaskFail")
      (hnone : st.terminalReport = none) (hactive : st.activeAssignee = some env.sender)
      (hr : r.author = env.sender) : Change d s env st { st with terminalReport := some r }
  | commit (htype : env.messageType = "Commitment") : Change d s env st st

variable {st st' : State} {task : TaskRecord} {s : Session} {env : Envelope}
  {outcome : Outcome State} {texts : FloatText}

lemma matchTask_eq_ok {taskId : String} (h : matchTask st taskId = .ok task) :
    st.task = some task := by
  unfold matchTask at h
  split at h
  · cases h
  · rename_i task' htask
    split_ifs at h
    cases h
    exact htask

lemma eligible_of_canAssigneeRespond {sender : String}
    (h : canAssigneeRespond s task sender = true) : Eligible s.bindings task sender := by
  unfold canAssigneeRespond at h
  unfold Eligible
  by_cases hopen : task.requestedAssignee = ""
  · have hempty : task.requestedAssignee.isEmpty = true := by simp [hopen]
    simp only [hempty, Bool.not_true, Bool.false_eq_true, if_false, Bool.and_eq_true,
      bne_iff_ne] at h
    have hmem : sender ∈ s.participants := by simpa [isDeclaredParticipant] using h.1
    rw [if_pos hopen]
    exact ⟨hmem, h.2⟩
  · have hnamed : task.requestedAssignee.isEmpty = false := by simpa using hopen
    simp only [hnamed, Bool.not_false, if_true, beq_iff_eq] at h
    rw [if_neg hopen]
    exact h

lemma handleTaskRequest_change (htype : env.messageType = "TaskRequest")
    (h : handleTaskRequest d s env st = .ok outcome) : Change d s env st outcome.state := by
  unfold handleTaskRequest at h
  split_ifs at h
  split at h
  · cases h
  · split_ifs at h with hbad
    cases h
    refine .request htype ?_
    simp only [Bool.or_eq_true, not_or] at hbad
    simpa using hbad.1

lemma handleTaskAccept_change (htype : env.messageType = "TaskAccept")
    (h : handleTaskAccept d s env st = .ok outcome) : Change d s env st outcome.state := by
  unfold handleTaskAccept at h
  split at h
  · cases h
  · split at h
    · cases h
    · rename_i task htask
      split_ifs at h with hfree hclean hre hclaim hcan
      cases h
      refine .accept htype (matchTask_eq_ok htask) (by simpa using hfree) ?_
        (eligible_of_canAssigneeRespond (by simpa using hcan))
      intro hrev r hr heq
      exact hclean ⟨hrev, List.any_eq_true.mpr ⟨r, hr, by simpa using heq⟩⟩

lemma handleTaskReject_change (htype : env.messageType = "TaskReject")
    (h : handleTaskReject d s env st = .ok outcome) : Change d s env st outcome.state := by
  obtain ⟨task, active, rejections, updates, report⟩ := st
  unfold handleTaskReject at h
  split at h
  · cases h
  · split at h
    · cases h
    · rename_i task' htask
      dsimp only at h
      split_ifs at h with hother hclaim hcan hagain hmine
      all_goals
        have hfirst : ∀ r' ∈ rejections, r'.assignee ≠ env.sender := fun r' hr' heq =>
          hagain (List.any_eq_true.mpr ⟨r', hr', by simpa using heq⟩)
      · cases h
        refine .reject htype (.inr ⟨hmine, ?_⟩) hfirst (fun hnone => ?_) rfl
        · simpa [hmine] using hother
        · cases hmine.symm.trans hnone
      · -- nobody else may reject a task that is taken
        have hnone : active = none := by
          cases active with
          | none => rfl
          | some a =>
            have hne : a ≠ env.sender := fun heq => hmine (by rw [heq])
            simp [hne] at hother
        subst hnone
        cases h
        exact .reject htype (.inl rfl) hfirst
          (fun _ => ⟨task', matchTask_eq_ok htask,
            eligible_of_canAssigneeRespond (by simpa using hcan)⟩) rfl

lemma not_reportBarred (h : ¬ reportBarred env st = true) :
    st.terminalReport = none ∧ st.activeAssignee = some env.sender := by
  simp only [reportBarred, Bool.or_eq_true, not_or] at h
  exact ⟨by simpa using h.1, by simpa using h.2⟩

lemma handleTaskUpdate_change (htype : env.messageType = "TaskUpdate")
    (h : handleTaskUpdate d env st = .ok outcome) : Change d s env st outcome.state := by
  unfold handleTaskUpdate at h
  split at h
  · cases h
  · rename_i payload hpayload
    split at h
    · cases h
    · split_ifs at h with hbarred
      cases h
      exact .update htype hpayload (not_reportBarred hbarred).2

lemma handleTaskComplete_change (htype : env.messageType = "TaskComplete")
    (h : handleTaskComplete d env st = .ok outcome) : Change d s env st outcome.state := by
  unfold handleTaskComplete at h
  split at h
  · cases h
  · split at h
    · cases h
    · split_ifs at h with hbarred hclaim
      cases h
      exact .report (.inl htype) (not_reportBarred hbarred).1 (not_reportBarred hbarred).2 rfl

lemma handleTaskFail_change (htype : env.messageType = "TaskFail")
    (h : handleTaskFail d env st = .ok outcome) : Change d s env st outcome.state := by
  unfold handleTaskFail at h
  split at h
  · cases h
  · split at h
    · cases h
    · split_ifs at h with hbarred hclaim
      cases h
      exact .report (.inr htype) (not_reportBarred hbarred).1 (not_reportBarred hbarred).2 rfl

lemma handleCommitment_change (htype : env.messageType = "Commitment")
    (h : handleCommitment d s env st = .ok outcome) : Change d s env st outcome.state := by
  unfold handleCommitment at h
  split at h
  · cases h
  · split_ifs at h
    split at h
    · cases h
    · cases h
      exact .commit htype

/-- **Every accepted message makes one of the changes.** -/
theorem took_change (h : (parts d).Took s env st outcome) : Change d s env st outcome.state := by
  have hhandled : handle d s env st = .ok outcome := h.handled
  unfold handle at hhandled
  split_ifs at hhandled with h1 h2 h3 h4 h5 h6 h7
  · exact handleTaskRequest_change (by simpa using h1) hhandled
  · exact handleTaskAccept_change (by simpa using h2) hhandled
  · exact handleTaskReject_change (by simpa using h3) hhandled
  · exact handleTaskUpdate_change (by simpa using h4) hhandled
  · exact handleTaskComplete_change (by simpa using h5) hhandled
  · exact handleTaskFail_change (by simpa using h6) hhandled
  · exact handleCommitment_change (by simpa using h7) hhandled

/-! ### Invariants -/

/-- The active assignee was eligible and never rejected, and a terminal report is its own. -/
structure State.Sound (b : Session.Bindings) (st : State) : Prop where
  assigned : ∀ a, st.activeAssignee = some a →
    (∃ task, st.task = some task ∧ Eligible b task a) ∧ ∀ r ∈ st.rejections, r.assignee ≠ a
  reported : ∀ r, st.terminalReport = some r → st.activeAssignee = some r.author

/-- The update is what the message says, as its sender's. -/
structure MadeBy (d : Deps) (u : TaskUpdateRecord) (env : Envelope) : Prop where
  sender : u.sender = env.sender
  payload : ∃ p, d.decodeTaskUpdate env.payload = some p ∧ u.taskId = p.taskId
    ∧ u.status = p.status ∧ u.message = p.message ∧ u.partialOutput = p.partialOutput

/-- The updates among some accepted messages. -/
def updatesOf (history : List (Session × Envelope)) : List Envelope :=
  (history.map (·.2)).filter (·.messageType == "TaskUpdate")

/-- The sender of a message was the active assignee of the session it was accepted on. -/
def Assigned (d : Deps) (e : Session × Envelope) : Prop :=
  ∃ st, (parts d).held e.1 = some st ∧ st.activeAssignee = some e.2.sender

/-- The state records what was accepted: every rejection, and the updates one by one. -/
structure Recorded (d : Deps) (history : List (Session × Envelope)) (st : State) : Prop where
  rejections : ∀ e ∈ history, e.2.messageType = "TaskReject" →
    ∃ r ∈ st.rejections, r.assignee = e.2.sender
  updates : List.Forall₂ (MadeBy d) st.updates (updatesOf history)

/-- The report of `st`, and the assignee it had, are those of `st'`. -/
def State.Settled (st st' : State) : Prop :=
  ∀ r, st.terminalReport = some r →
    st'.terminalReport = some r ∧ st'.activeAssignee = st.activeAssignee

/-- No active assignee gives the task back once a terminal report exists. -/
def KeepsReport (d : Deps) (s : Session) : Op → Prop
  | .step env _ => ∀ st, (parts d).held s = some st → env.messageType = "TaskReject" →
      st.activeAssignee = some env.sender → reassignmentAllowed d s = true →
        st.terminalReport = none
  | _ => True

section Change

variable {s : Session} {env : Envelope} {st st' : State}

lemma Change.sound (h : Change d s env st st') (hrev : 4 ≤ s.semanticsRev)
    (hkeeps : env.messageType = "TaskReject" → st.activeAssignee = some env.sender →
      reassignmentAllowed d s = true → st.terminalReport = none)
    (hst : st.Sound s.bindings) : st'.Sound s.bindings := by
  obtain ⟨hassigned, hreported⟩ := hst
  cases h with
  | request htype hnone =>
    refine ⟨fun a ha => ?_, hreported⟩
    obtain ⟨⟨task, htask, -⟩, -⟩ := hassigned a ha
    rw [hnone] at htask
    cases htask
  | accept htype htask hfree hclean heligible =>
    refine ⟨fun a ha => ?_, fun r hr => ?_⟩
    · cases ha
      exact ⟨⟨_, htask, heligible⟩, hclean hrev⟩
    · have hactive := hreported r hr
      rw [hfree] at hactive
      cases hactive
  | reject htype hfree _ _ hr =>
    refine ⟨fun a ha => ?_, fun r hr => ?_⟩
    · cases ha
    · have hactive := hreported r hr
      rcases hfree with hnone | ⟨hmine, hallowed⟩
      · rw [hnone] at hactive
        cases hactive
      · have hnone := hkeeps htype hmine hallowed
        rw [hnone] at hr
        cases hr
  | update _ _ _ => exact ⟨hassigned, hreported⟩
  | report htype hnone hactive hr =>
    refine ⟨hassigned, fun r' hr' => ?_⟩
    cases hr'
    rw [hr]
    exact hactive
  | commit htype => exact ⟨hassigned, hreported⟩

lemma updatesOf_concat (history : List (Session × Envelope)) (s : Session) (env : Envelope) :
    updatesOf (history ++ [(s, env)])
      = updatesOf history ++ if env.messageType = "TaskUpdate" then [env] else [] := by
  rw [updatesOf, List.map_append, List.filter_append, List.map_singleton, List.filter_singleton,
    Bool.cond_eq_ite, ← updatesOf]
  simp only [beq_iff_eq]

lemma Change.recorded {history : List (Session × Envelope)} (h : Change d s env st st')
    (hst : Recorded d history st) : Recorded d (history ++ [(s, env)]) st' := by
  obtain ⟨hrejections, hupdates⟩ := hst
  -- only a rejection adds to what must be on record
  have hothers (htype : env.messageType ≠ "TaskReject") : ∀ e ∈ history ++ [(s, env)],
      e.2.messageType = "TaskReject" → ∃ r ∈ st.rejections, r.assignee = e.2.sender := by
    intro e he hreject
    rcases List.mem_append.mp he with hold | hnew
    · exact hrejections e hold hreject
    · rw [List.mem_singleton] at hnew
      subst hnew
      exact absurd hreject htype
  have hsame (htype : env.messageType ≠ "TaskUpdate") :
      List.Forall₂ (MadeBy d) st.updates (updatesOf (history ++ [(s, env)])) := by
    rwa [updatesOf_concat, if_neg htype, List.append_nil]
  cases h with
  | request htype _ => exact ⟨hothers (by simp [htype]), hsame (by simp [htype])⟩
  | accept htype _ _ _ _ => exact ⟨hothers (by simp [htype]), hsame (by simp [htype])⟩
  | @reject r htype _ _ _ hr =>
    refine ⟨fun e he hreject => ?_, hsame (by simp [htype])⟩
    rcases List.mem_append.mp he with hold | hnew
    · obtain ⟨r', hr', hsender⟩ := hrejections e hold hreject
      exact ⟨r', List.mem_append_left _ hr', hsender⟩
    · rw [List.mem_singleton] at hnew
      subst hnew
      exact ⟨r, List.mem_append_right _ (List.mem_singleton_self r), hr⟩
  | @update p htype hpayload _ =>
    refine ⟨hothers (by simp [htype]), ?_⟩
    rw [updatesOf_concat, if_pos htype]
    exact List.rel_append hupdates (.cons ⟨rfl, p, hpayload, rfl, rfl, rfl, rfl⟩ .nil)
  | report htype _ _ _ =>
    have hne : env.messageType ≠ "TaskReject" ∧ env.messageType ≠ "TaskUpdate" := by
      rcases htype with h | h <;> simp [h]
    exact ⟨hothers hne.1, hsame hne.2⟩
  | commit htype => exact ⟨hothers (by simp [htype]), hsame (by simp [htype])⟩

/-- An accepted update is the active assignee's. -/
lemma Change.assigned (h : Change d s env st st') (htype : env.messageType = "TaskUpdate") :
    st.activeAssignee = some env.sender := by
  cases h with
  | update _ _ hactive => exact hactive
  | report htype' _ hactive _ => exact hactive
  | request htype' _ => simp [htype] at htype'
  | accept htype' _ _ _ _ => simp [htype] at htype'
  | reject htype' _ _ _ _ => simp [htype] at htype'
  | commit htype' => simp [htype] at htype'

lemma Change.settled {st₀ : State} (h : Change d s env st st')
    (hkeeps : env.messageType = "TaskReject" → st.activeAssignee = some env.sender →
      reassignmentAllowed d s = true → st.terminalReport = none)
    (hst : st.Sound s.bindings) (hsettled : st₀.Settled st) : st₀.Settled st' := by
  intro r hr
  obtain ⟨hreport, hsame⟩ := hsettled r hr
  have hactive := hst.reported r hreport
  cases h with
  | request _ _ => exact ⟨hreport, hsame⟩
  | accept _ _ hfree _ _ =>
    rw [hfree] at hactive
    cases hactive
  | reject htype hfree _ _ _ =>
    rcases hfree with hnone | ⟨hmine, hallowed⟩
    · rw [hnone] at hactive
      cases hactive
    · rw [hkeeps htype hmine hallowed] at hreport
      cases hreport
  | update _ _ _ => exact ⟨hreport, hsame⟩
  | report _ hnone _ _ =>
    rw [hnone] at hreport
    cases hreport
  | commit _ => exact ⟨hreport, hsame⟩

end Change

/-! ### Reading back -/

/-- What relates items to others relates what they are mapped to, if the mapping keeps it. -/
lemma forall₂_mapM {α β : Type} {R : α → β → Prop} {f : α → Option α} {as as' : List α}
    {bs : List β} (hf : ∀ a a' b, f a = some a' → R a b → R a' b) (h : as.mapM f = some as')
    (hR : List.Forall₂ R as bs) : List.Forall₂ R as' bs := by
  induction hR generalizing as' with
  | nil =>
    rw [List.mapM_nil] at h
    cases h
    exact .nil
  | cons hab _ ih =>
    simp only [List.mapM_cons, Option.bind_eq_bind, Option.bind_eq_some_iff] at h
    obtain ⟨a', ha', as'', has'', hcons⟩ := h
    cases hcons
    exact .cons (hf _ _ _ ha' hab) (ih has'')

/-- What is read back of a state differs in its updates at most. -/
lemma State.reread_eq_some (h : st.reread texts = some st') :
    ∃ updates, st.updates.mapM (TaskUpdateRecord.reread texts) = some updates
      ∧ st' = { st with updates := updates } := by
  rw [State.reread, Option.map_eq_some_iff] at h
  obtain ⟨updates, hupdates, rfl⟩ := h
  exact ⟨updates, hupdates, rfl⟩

lemma MadeBy.reread {u u' : TaskUpdateRecord} {env : Envelope} (hu : MadeBy d u env)
    (h : u.reread texts = some u') : MadeBy d u' env := by
  rw [TaskUpdateRecord.reread, Option.map_eq_some_iff] at h
  obtain ⟨progress, -, rfl⟩ := h
  exact ⟨hu.sender, hu.payload⟩

lemma State.Sound.reread {b : Session.Bindings} (hst : st.Sound b)
    (h : st.reread texts = some st') : st'.Sound b := by
  obtain ⟨updates, -, rfl⟩ := State.reread_eq_some h
  exact ⟨hst.assigned, hst.reported⟩

lemma Recorded.reread {history : List (Session × Envelope)} (hst : Recorded d history st)
    (h : st.reread d.texts = some st') : Recorded d history st' := by
  obtain ⟨updates, hread, rfl⟩ := State.reread_eq_some h
  exact ⟨hst.rejections, forall₂_mapM (fun _ _ _ hu hmade => hmade.reread hu) hread hst.updates⟩

lemma State.Settled.reread {st₀ : State} (hst : st₀.Settled st) (h : st.reread texts = some st') :
    st₀.Settled st' := by
  obtain ⟨updates, -, rfl⟩ := State.reread_eq_some h
  exact hst

/-! ### Whole runs -/

lemma held_of_begun {prost : Prost} (h : SessionBegun prost (parts d).mode s) :
    (parts d).held s = some .default :=
  (parts_startsWith d).held h (parts_decode_encode d _)

/-- A run from the beginning of a session keeps its state sound and its records true. -/
lemma run_sound (hbegun : SessionBegun d.prost (parts d).mode s) (hrev : 4 ≤ s.semanticsRev)
    {ops : List Op} (hkeeps : Along (parts d).mode (KeepsReport d) s ops)
    (hst : (parts d).held (run (parts d).mode s ops) = some st) :
    st.Sound s.bindings ∧ Recorded d (acceptedSteps (parts d).mode s ops) st := by
  refine StateMode.along_history (C := KeepsReport d) (b := s.bindings)
    (P := fun history st => st.Sound s.bindings ∧ Recorded d history st) ?_ ?_ [] rfl ?_ hkeeps st
    hst
  · rintro history st₁ st₂ hread ⟨hsound, hrecorded⟩
    rw [parts_decode_encode] at hread
    exact ⟨hsound.reread hread, hrecorded.reread hread⟩
  · rintro history t env nowMs st₁ outcome hbind hC htook ⟨hsound, hrecorded⟩
    have hrev' : 4 ≤ t.semanticsRev :=
      hrev.trans_eq (congrArg (·.semanticsRev) hbind.symm)
    have hchange := took_change htook
    rw [← hbind] at hsound ⊢
    exact ⟨hchange.sound hrev' (hC st₁ htook.held) hsound, hchange.recorded hrecorded⟩
  · intro st₁ hst₁
    rw [held_of_begun hbegun] at hst₁
    cases hst₁
    refine ⟨⟨fun a ha => ?_, fun r hr => ?_⟩, ⟨fun e he => ?_, .nil⟩⟩
    · cases ha
    · cases hr
    · cases he

/-- A run from a sound state keeps what is settled. -/
lemma run_settled (hrev : 4 ≤ s.semanticsRev) {ops : List Op} {st' : State}
    (hkeeps : Along (parts d).mode (KeepsReport d) s ops) (hst : (parts d).held s = some st)
    (hsound : st.Sound s.bindings)
    (hst' : (parts d).held (run (parts d).mode s ops) = some st') : st.Settled st' := by
  have hboth : st'.Sound s.bindings ∧ st.Settled st' := by
    refine StateMode.along_holds (C := KeepsReport d)
      (P := fun st' => st'.Sound s.bindings ∧ st.Settled st') ?_ ?_ ?_ hkeeps st' hst'
    · intro st₁ hst₁
      cases hst.symm.trans hst₁
      exact ⟨hsound, fun r hr => ⟨hr, rfl⟩⟩
    · rintro st₁ st₂ hread ⟨hsound₁, hsettled⟩
      rw [parts_decode_encode] at hread
      exact ⟨hsound₁.reread hread, hsettled.reread hread⟩
    · rintro t env nowMs st₁ outcome hbind hC htook ⟨hsound₁, hsettled⟩
      have hrev' : 4 ≤ t.semanticsRev := hrev.trans_eq (congrArg (·.semanticsRev) hbind.symm)
      have hchange := took_change htook
      rw [← hbind] at hsound₁ ⊢
      exact ⟨hchange.sound hrev' (hC st₁ htook.held) hsound₁,
        hchange.settled (hC st₁ htook.held) hsound₁ hsettled⟩
  exact hboth.2

/-- **Task integrity.**  In every run of a session at revision 4 or later in which no active
assignee gives the task back after a terminal report: every update that is accepted comes from the
active assignee of that moment; and of every state reached, the active assignee was eligible and
never sent a rejection, the updates are those of the accepted messages, one by one, and a terminal
report is the active assignee's, and neither of them changes again. -/
theorem task_integrity (d : Deps) (s : Session) (hbegun : SessionBegun d.prost (parts d).mode s)
    (hrev : 4 ≤ s.semanticsRev) (ops later : List Op)
    (hkeeps : Along (parts d).mode (KeepsReport d) s (ops ++ later)) :
    (∀ e ∈ acceptedSteps (parts d).mode s ops, e.2.messageType = "TaskUpdate" → Assigned d e) ∧
    ∀ st, (parts d).held (run (parts d).mode s ops) = some st →
      (∀ a, st.activeAssignee = some a →
        (∃ task, st.task = some task ∧ Eligible s.bindings task a) ∧
        ∀ e ∈ acceptedSteps (parts d).mode s ops,
          e.2.messageType = "TaskReject" → e.2.sender ≠ a) ∧
      List.Forall₂ (MadeBy d) st.updates (updatesOf (acceptedSteps (parts d).mode s ops)) ∧
      (∀ r, st.terminalReport = some r → st.activeAssignee = some r.author ∧
        ∀ st', (parts d).held (run (parts d).mode s (ops ++ later)) = some st' →
          st'.terminalReport = some r ∧ st'.activeAssignee = some r.author) := by
  obtain ⟨hbefore, hafter⟩ := along_append.mp hkeeps
  constructor
  · intro e he htype
    obtain ⟨st, outcome, htook⟩ := StateMode.took_of_accepted he
    exact ⟨st, htook.held, (took_change htook).assigned htype⟩
  intro st hst
  obtain ⟨hsound, hrecorded⟩ := run_sound hbegun hrev hbefore hst
  refine ⟨fun a ha => ⟨(hsound.assigned a ha).1, fun e he hreject heq => ?_⟩,
    hrecorded.updates, fun r hr => ⟨hsound.reported r hr, fun st' hst' => ?_⟩⟩
  · obtain ⟨r, hr, hsender⟩ := hrecorded.rejections e he hreject
    exact (hsound.assigned a ha).2 r hr (hsender.trans heq)
  · rw [run_append] at hst'
    have hbind : (run (parts d).mode s ops).bindings = s.bindings := run_bindings s ops
    have hrev' : 4 ≤ (run (parts d).mode s ops).semanticsRev :=
      hrev.trans_eq (congrArg (·.semanticsRev) hbind.symm)
    obtain ⟨hreport, hsame⟩ := run_settled hrev' hafter hst (hbind ▸ hsound) hst' r hr
    exact ⟨hreport, hsame.trans (hsound.reported r hr)⟩

/-! ### A task given back -/

def mergeRequest (p : TaskRequestPayload) : Protobuf.Field → Option TaskRequestPayload
  | (1, v) => v.asString.map fun x => { p with taskId := x }
  | (2, v) => v.asString.map fun x => { p with title := x }
  | (3, v) => v.asString.map fun x => { p with instructions := x }
  | (4, v) => v.asString.map fun x => { p with requestedAssignee := x }
  | (5, v) => v.asBytes.map fun x => { p with input := x }
  | (6, v) => v.asVarint.map fun n => { p with deadlineUnixMs := .ofNat n }
  | _ => some p

def mergeAnswer (p : TaskAnswerPayload) : Protobuf.Field → Option TaskAnswerPayload
  | (1, v) => v.asString.map fun x => { p with taskId := x }
  | (2, v) => v.asString.map fun x => { p with assignee := x }
  | (3, v) => v.asString.map fun x => { p with reason := x }
  | _ => some p

def mergeUpdate (p : TaskUpdatePayload) : Protobuf.Field → Option TaskUpdatePayload
  | (1, v) => v.asString.map fun x => { p with taskId := x }
  | (2, v) => v.asString.map fun x => { p with status := x }
  | (3, v) => v.asDouble.map fun x => { p with progress := x }
  | (4, v) => v.asString.map fun x => { p with message := x }
  | (5, v) => v.asBytes.map fun x => { p with partialOutput := x }
  | _ => some p

def mergeComplete (p : TaskCompletePayload) : Protobuf.Field → Option TaskCompletePayload
  | (1, v) => v.asString.map fun x => { p with taskId := x }
  | (2, v) => v.asString.map fun x => { p with assignee := x }
  | (3, v) => v.asBytes.map fun x => { p with output := x }
  | (4, v) => v.asString.map fun x => { p with summary := x }
  | _ => some p

/-- Every policy lets an assignee give the task back. -/
def reassignSchemas : RuleSchemas :=
  { RuleSchemas.plain with
    task := fun _ => .ok { TaskPolicyRules.default with allowReassignmentOnReject := true } }

/-- A mode that knows every payload but that of a failure, with the default evaluator. -/
def deps : Deps where
  prost := protobuf
  decodeTaskRequest := mergeFields 6 mergeRequest ⟨"", "", "", "", [], 0⟩
  decodeTaskAccept := mergeFields 3 mergeAnswer ⟨"", "", ""⟩
  decodeTaskReject := mergeFields 3 mergeAnswer ⟨"", "", ""⟩
  decodeTaskUpdate := mergeFields 5 mergeUpdate ⟨"", "", 0, "", []⟩
  decodeTaskComplete := mergeFields 4 mergeComplete ⟨"", "", [], ""⟩
  decodeTaskFail := fun _ => none
  texts := exactDecimal
  reader := ⟨fun _ => none, fun _ => none⟩
  schemas := reassignSchemas
  evaluator := defaultPolicyEvaluator reassignSchemas .plain

/-- A policy that allows reassignment. -/
def reassignPolicy : PolicyDefinition where
  policyId := "p"
  mode := "macp.mode.task.v1"
  description := ""
  rules := .object [("assignment", .object [("allow_reassignment_on_reject", .bool true)])]
  schemaVersion := 1

/-- A session under it. -/
def sampleSession : Session :=
  sampleSessionOf "macp.mode.task.v1" (some reassignPolicy)
    ((Codec.state exactDecimal).encode .default)

lemma sampleStart_accepted :
    acceptSessionStart protobuf (sampleStartOf "macp.mode.task.v1") 5 (parts deps).mode
      (some reassignPolicy) {} = .ok sampleSession := by
  rfl

lemma sampleSession_begun : SessionBegun deps.prost (parts deps).mode sampleSession :=
  .accepted sampleStart_accepted

/-- A message about the task `t`. -/
def sampleAbout (messageType messageId sender : String) : Envelope :=
  sampleMessage "macp.mode.task.v1" messageType messageId sender [0x0A, 1, 116]

/-- The open task `t`, taken and reported on by the given participants. -/
def sampleState (active : Option String) (rejections : List TaskRejectRecord)
    (reporter : Option String) : State where
  task := some ⟨"t", "", "", "", [], 0, "a"⟩
  activeAssignee := active
  rejections := rejections
  updates := []
  terminalReport := reporter.map fun p => .Complete ⟨"t", p, [], ""⟩

lemma held_sampleState (s : Session) (env : Envelope) (nowMs : Int64) (active : Option String)
    (rejections : List TaskRejectRecord) (reporter : Option String) :
    (parts deps).held ((parts deps).after s env (sampleState active rejections reporter) nowMs)
      = some (sampleState active rejections reporter) :=
  StateMode.held_after (parts_decode_encode _ _)

/-- The session with its task. -/
def requested : Session :=
  (parts deps).after sampleSession (sampleAbout "TaskRequest" "m1" "a")
    (sampleState none [] none) 10

/-- The session with an assignee. -/
def taken : Session :=
  (parts deps).after requested (sampleAbout "TaskAccept" "m2" "b") (sampleState (some "b") [] none)
    11

/-- The session with a report. -/
def reported : Session :=
  (parts deps).after taken (sampleAbout "TaskComplete" "m3" "b")
    (sampleState (some "b") [] (some "b")) 12

/-- The session without its assignee. -/
def orphaned : Session :=
  (parts deps).after reported (sampleAbout "TaskReject" "m4" "b")
    (sampleState none [⟨"t", "b", "", true⟩] (some "b")) 13

lemma step_requested : step sampleSession (sampleAbout "TaskRequest" "m1" "a") (parts deps).mode 10
    = (requested, .ok (.Accepted .Open [])) :=
  StateMode.step_eq (held_of_begun sampleSession_begun) rfl rfl rfl rfl

lemma step_taken : step requested (sampleAbout "TaskAccept" "m2" "b") (parts deps).mode 11
    = (taken, .ok (.Accepted .Open [])) :=
  StateMode.step_eq (held_sampleState _ _ _ _ _ _) rfl rfl rfl rfl

lemma step_reported : step taken (sampleAbout "TaskComplete" "m3" "b") (parts deps).mode 12
    = (reported, .ok (.Accepted .Open [])) :=
  StateMode.step_eq (held_sampleState _ _ _ _ _ _) rfl rfl rfl rfl

/-- The run up to the report. -/
def reportedOps : List Op :=
  [.step (sampleAbout "TaskRequest" "m1" "a") 10, .step (sampleAbout "TaskAccept" "m2" "b") 11,
    .step (sampleAbout "TaskComplete" "m3" "b") 12]

lemma run_reported : run (parts deps).mode sampleSession reportedOps = reported := by
  rw [reportedOps, run_step step_requested, run_step step_taken, run_step step_reported, run_nil]

/-- An update of `b` on the task `t`, with a progress of one half. -/
def sampleUpdate : Envelope :=
  sampleMessage "macp.mode.task.v1" "TaskUpdate" "m3" "b"
    [0x0A, 1, 116, 0x19, 0, 0, 0, 0, 0, 0, 0xE0, 0x3F]

/-- The state with the update of `b`, reported on by the given participant. -/
def workedState (reporter : Option String) : State :=
  { sampleState (some "b") [] reporter with
    updates := [⟨"t", "", .ofBits 0x3FE0000000000000, "", [], "b"⟩] }

/-- The session with an update. -/
def worked : Session := (parts deps).after taken sampleUpdate (workedState none) 12

/-- The session with an update and a report. -/
def workReported : Session :=
  (parts deps).after worked (sampleAbout "TaskComplete" "m4" "b") (workedState (some "b")) 13

/-- The run up to the report, with an update. -/
def workedOps : List Op :=
  [.step (sampleAbout "TaskRequest" "m1" "a") 10, .step (sampleAbout "TaskAccept" "m2" "b") 11,
    .step sampleUpdate 12, .step (sampleAbout "TaskComplete" "m4" "b") 13]

lemma exact_half : deps.texts.Exact (.ofBits 0x3FE0000000000000) :=
  ⟨by decide +kernel, by decide +kernel⟩

lemma reread_workedState (reporter : Option String) :
    (parts deps).decode ((parts deps).encode (workedState reporter))
      = some (workedState reporter) := by
  rw [parts_decode_encode, State.reread, workedState]
  simp only [List.mapM_cons, List.mapM_nil, TaskUpdateRecord.reread, exact_half.fromJson_toJson,
    Option.map_some, Option.bind_eq_bind, Option.bind_some, Option.pure_def]

lemma run_worked : run (parts deps).mode sampleSession workedOps = workReported := by
  have hupdate : step taken sampleUpdate (parts deps).mode 12
      = (worked, .ok (.Accepted .Open [])) :=
    StateMode.step_eq (held_sampleState _ _ _ _ _ _) rfl rfl rfl rfl
  have hreport : step worked (sampleAbout "TaskComplete" "m4" "b") (parts deps).mode 13
      = (workReported, .ok (.Accepted .Open [])) :=
    StateMode.step_eq (StateMode.held_after (reread_workedState none)) rfl rfl rfl rfl
  rw [workedOps, run_step step_requested, run_step step_taken, run_step hupdate,
    run_step hreport, run_nil]

/-- The assignee makes an update and reports, and nothing is lost of it when time passes. -/
theorem task_integrity_sample :
    (∀ e ∈ acceptedSteps (parts deps).mode sampleSession workedOps,
        e.2.messageType = "TaskUpdate" → Assigned deps e) ∧
      (parts deps).held (run (parts deps).mode sampleSession (workedOps ++ [.advance 14]))
        = some (workedState (some "b")) ∧
      List.Forall₂ (MadeBy deps) (workedState (some "b")).updates
        (updatesOf (acceptedSteps (parts deps).mode sampleSession workedOps)) ∧
      (workedState (some "b")).activeAssignee = some "b" := by
  have hkeeps : Along (parts deps).mode (KeepsReport deps) sampleSession
      (workedOps ++ [.advance 14]) := by
    refine along_append.mpr ⟨⟨?_, ?_, ?_, ?_, trivial⟩, ⟨trivial, trivial⟩⟩
    all_goals
      rintro st - htype
      simp [sampleAbout, sampleUpdate, sampleMessage] at htype
  have hheld : (parts deps).held (run (parts deps).mode sampleSession workedOps)
      = some (workedState (some "b")) := by
    rw [run_worked]
    exact StateMode.held_after (reread_workedState _)
  have hlater : (parts deps).held (run (parts deps).mode sampleSession
      (workedOps ++ [.advance 14])) = some (workedState (some "b")) := by
    rw [run_append, StateMode.run_advance, run_nil]
    exact hheld
  obtain ⟨hassigned, hstates⟩ := task_integrity deps sampleSession sampleSession_begun (by decide)
    workedOps _ hkeeps
  obtain ⟨-, hmade, hreport⟩ := hstates _ hheld
  exact ⟨hassigned, hlater, hmade, ((hreport _ rfl).2 _ hlater).2⟩

/-- The assignee reports and then gives the task back: the report stands without an active
assignee. -/
theorem report_orphaned :
    SessionBegun deps.prost (parts deps).mode sampleSession ∧ 4 ≤ sampleSession.semanticsRev ∧
    (step (run (parts deps).mode sampleSession reportedOps) (sampleAbout "TaskReject" "m4" "b")
      (parts deps).mode 13).2 = .ok (.Accepted .Open []) ∧
    ∃ st r, (parts deps).held (run (parts deps).mode sampleSession
        (reportedOps ++ [.step (sampleAbout "TaskReject" "m4" "b") 13])) = some st ∧
      st.terminalReport = some r ∧ st.activeAssignee ≠ some r.author := by
  have hstep : step reported (sampleAbout "TaskReject" "m4" "b") (parts deps).mode 13
      = (orphaned, .ok (.Accepted .Open [])) :=
    StateMode.step_eq (held_sampleState _ _ _ _ _ _) rfl rfl rfl rfl
  refine ⟨sampleSession_begun, by decide, ?_,
    sampleState none [⟨"t", "b", "", true⟩] (some "b"), .Complete ⟨"t", "b", [], ""⟩, ?_, rfl, ?_⟩
  · rw [run_reported, hstep]
  · rw [run_append, run_reported, run_step hstep, run_nil]
    exact held_sampleState _ _ _ _ _ _
  · simp [sampleState]

end MacpRuntime.Task
