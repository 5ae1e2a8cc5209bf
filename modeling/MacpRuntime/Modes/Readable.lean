import MacpRuntime.Decision.Change
import MacpRuntime.Handoff.Codec
import MacpRuntime.Handoff.Offers
import MacpRuntime.MultiRound.Mode
import MacpRuntime.Proposal.Agreement
import MacpRuntime.Quorum.Threshold
import MacpRuntime.Task.Integrity

/-!
Whether what a mode stores can be read again.

Every built-in mode writes its whole state as JSON after each message and reads it before the next
one.  Texts, integers and maps are read back; a double is read back if it is finite and its text is
read to the same value.

* `mode_state_legible`: **in every run of messages that put only such doubles into the state, the
  stored state of each mode is read back**;
* `evaluation_blocks_session`: a confidence that is not a number is accepted, and the session
  accepts no message after it.
-/

namespace MacpRuntime

/-- A list read back element by element. -/
lemma mapM_eq_self {α : Type} {f : α → Option α} {as : List α} (h : ∀ a ∈ as, f a = some a) :
    as.mapM f = some as := by
  induction as with
  | nil => rfl
  | cons a as ih =>
    rw [List.mapM_cons, h a List.mem_cons_self,
      ih fun b hb => h b (List.mem_cons_of_mem a hb)]
    rfl

/-! ### Decision -/

namespace Decision

variable (d : Deps)

/-- An evaluation has a confidence that is read back. -/
def ExactConfidence (_ : Session) : Op → Prop
  | .step env _ => env.messageType = "Evaluation" → ∀ payload,
      d.decodeEvaluation env.payload = some payload → d.texts.Exact payload.confidence
  | _ => True

/-- Every confidence of the state is read back. -/
def State.Exact (texts : FloatText) (st : State) : Prop :=
  ∀ e ∈ st.evaluations, texts.Exact e.confidence

variable {d} {st : State} {outcome : Outcome State} {s : Session}

lemma State.Exact.reread {texts : FloatText} (h : st.Exact texts) : st.reread texts = some st := by
  rw [State.reread, mapM_eq_self, Option.map_some]
  intro e he
  rw [Evaluation.reread, (h e he).fromJson_toJson, Option.map_some]

/-- A message adds at most one evaluation, with the confidence of its payload. -/
lemma handle_evaluations {env : Envelope} (h : (parts d).Took s env st outcome) :
    outcome.state.evaluations = st.evaluations
      ∨ ∃ payload e, env.messageType = "Evaluation"
        ∧ d.decodeEvaluation env.payload = some payload ∧ e.confidence = payload.confidence
        ∧ outcome.state.evaluations = st.evaluations ++ [e] := by
  have hchange := took_change h
  generalize outcome.state = st' at hchange ⊢
  cases hchange with
  | evaluation htype hpayload hconfidence _ _ _ =>
    exact .inr ⟨_, _, htype, hpayload, hconfidence, rfl⟩
  | proposal _ _ => exact .inl rfl
  | objection _ _ _ => exact .inl rfl
  | vote _ _ _ _ _ => exact .inl rfl
  | commit _ _ => exact .inl rfl

/-- A message with an exact confidence keeps the confidences of the state exact. -/
lemma State.Exact.took {t : Session} {env : Envelope} {nowMs : Int64} (hst : st.Exact d.texts)
    (hC : ExactConfidence d t (.step env nowMs)) (h : (parts d).Took s env st outcome) :
    outcome.state.Exact d.texts := by
  rcases handle_evaluations h with hsame | ⟨payload, e, htype, hdec, hconf, hadd⟩
  · rwa [State.Exact, hsame]
  · rw [State.Exact, hadd]
    intro e' he'
    rcases List.mem_append.mp he' with hold | hnew
    · exact hst e' hold
    · rw [List.mem_singleton.mp hnew, hconf]
      exact hC htype payload hdec

/-- **A decision session whose confidences are read back is legible.** -/
theorem legible (hbegun : SessionBegun d.prost (parts d).mode s) {ops : List Op}
    (hops : Along (parts d).mode (ExactConfidence d) s ops) : (parts d).Legible s ops := by
  refine StateMode.legible (P := State.Exact d.texts) (fun st hst => ?_) ?_ ?_ hops
  · rw [parts_decode_encode, hst.reread]
  · intro t env nowMs st outcome hC htook hst
    exact hst.took hC htook
  · obtain ⟨_, st, _, hstart, hbytes⟩ := StateMode.modeState_of_begun hbegun
    cases hstart
    exact ⟨.default, hbytes, fun e he => absurd he List.not_mem_nil⟩

end Decision

/-! ### Task -/

namespace Task

variable (d : Deps)

/-- An update has a progress that is read back. -/
def ExactProgress (_ : Session) : Op → Prop
  | .step env _ => env.messageType = "TaskUpdate" → ∀ payload,
      d.decodeTaskUpdate env.payload = some payload → d.texts.Exact payload.progress
  | _ => True

/-- Every progress of the state is read back. -/
def State.Exact (texts : FloatText) (st : State) : Prop :=
  ∀ u ∈ st.updates, texts.Exact u.progress

variable {d}

lemma State.Exact.reread {texts : FloatText} {st : State} (h : st.Exact texts) :
    st.reread texts = some st := by
  rw [State.reread, mapM_eq_self, Option.map_some]
  intro u hu
  rw [TaskUpdateRecord.reread, (h u hu).fromJson_toJson, Option.map_some]

/-- A message adds at most one update, with the progress of its payload. -/
lemma handle_updates {s : Session} {env : Envelope} {st : State} {outcome : Outcome State}
    (h : (parts d).Took s env st outcome) :
    outcome.state.updates = st.updates
      ∨ ∃ payload u, env.messageType = "TaskUpdate"
        ∧ d.decodeTaskUpdate env.payload = some payload ∧ u.progress = payload.progress
        ∧ outcome.state.updates = st.updates ++ [u] := by
  have hchange := took_change h
  have hhandled : handle d s env st = .ok outcome := h.handled
  generalize hst' : outcome.state = st' at hchange ⊢
  cases hchange with
  | request _ _ => exact .inl rfl
  | accept _ _ _ _ _ => exact .inl rfl
  | reject _ _ _ => exact .inl rfl
  | report _ _ _ _ => exact .inl rfl
  | commit _ => exact .inl rfl
  | update htype _ _ =>
    rw [handle, htype, if_neg (by decide), if_neg (by decide), if_neg (by decide),
      if_pos (by decide), handleTaskUpdate] at hhandled
    split at hhandled
    · cases hhandled
    · rename_i payload hpayload
      split at hhandled
      · cases hhandled
      · split_ifs at hhandled
        cases hhandled
        exact .inr ⟨payload, _, htype, hpayload, rfl, congrArg State.updates hst'.symm⟩

/-- **A task session whose progresses are read back is legible.** -/
theorem legible {s : Session} (hbegun : SessionBegun d.prost (parts d).mode s) {ops : List Op}
    (hops : Along (parts d).mode (ExactProgress d) s ops) : (parts d).Legible s ops := by
  refine StateMode.legible (P := State.Exact d.texts) (fun st hst => ?_) ?_ ?_ hops
  · rw [parts_decode_encode, hst.reread]
  · intro t env nowMs st outcome hC htook hst
    rcases handle_updates htook with hsame | ⟨payload, u, htype, hdec, hprogress, hadd⟩
    · rwa [State.Exact, hsame]
    · rw [State.Exact, hadd]
      intro u' hu'
      rcases List.mem_append.mp hu' with hold | hnew
      · exact hst u' hold
      · rw [List.mem_singleton.mp hnew, hprogress]
        exact hC htype payload hdec
  · obtain ⟨bound, st, _, hstart, hbytes⟩ := StateMode.modeState_of_begun hbegun
    have hdefault : st = .default := by
      have hstart' : onSessionStart bound = .ok st := hstart
      unfold onSessionStart at hstart'
      split_ifs at hstart'
      exact (Except.ok.inj hstart').symm
    subst hdefault
    exact ⟨.default, hbytes, fun u hu => absurd hu List.not_mem_nil⟩

end Task

/-! ### Handoff -/

namespace Handoff

variable {d : Deps}

/-- What an accepted message wrote is read back. -/
def ReadsBack (d : Deps) (s : Session) : Op → Prop
  | .step env nowMs => ∀ state synthesized,
      (step s env (mode d) nowMs).2 = .ok (.Accepted state synthesized) →
        ∃ st, (step s env (mode d) nowMs).1.modeState = d.codec.encode st
          ∧ d.codec.decode (step s env (mode d) nowMs).1.modeState = some st
  | _ => True

/-- Every state written in the run is read back, and at its end one is held. -/
structure Legible (d : Deps) (s : Session) (ops : List Op) : Prop where
  reads : Along (mode d) (ReadsBack d) s ops
  held : ∃ st, decodeState d (run (mode d) s ops) = some st

variable {s : Session}

/-- A response writes a state. -/
lemma handleMessage_writes {env : Envelope} {clockMs : Int64} {r : ModeResponse}
    (h : handleMessage d s env clockMs = .ok r) (t : Session) :
    ∃ st, (t.applyModeResponse r).modeState = d.codec.encode st := by
  have hpersist : ∀ st, (∃ st', Change d s env clockMs st st' ∧ r = persist d st') →
      ∃ st', (t.applyModeResponse r).modeState = d.codec.encode st' := by
    rintro _ ⟨st', -, rfl⟩
    exact ⟨st', rfl⟩
  unfold handleMessage at h
  split at h
  · cases h
  · split_ifs at h with ho hc ha hd hm
    · exact hpersist _ (handleOffer_change (by simpa using ho) h)
    · exact hpersist _ (handleContext_change h)
    · exact hpersist _ (handleAccept_change (by simpa using ha) h)
    · exact hpersist _ (handleDecline_change h)
    · unfold handleCommitment at h
      split at h
      · cases h
      · dsimp only at h
        split_ifs at h
        split at h
        · cases h
        · cases h
          exact ⟨_, rfl⟩

/-- A move leaves bytes that a state was written to. -/
lemma move_writes {op : Op} {s' : Session} (hm : Move (mode d) op s s')
    (h : ∃ st, s.modeState = d.codec.encode st) : ∃ st, s'.modeState = d.codec.encode st := by
  cases hm with
  | synthetic _ hsyn =>
    obtain ⟨_, _, _, _, hmsg⟩ := nextSynthetic_eq_some hsyn
    exact handleMessage_writes hmsg _
  | commit _ _ _ hmsg => exact handleMessage_writes hmsg _
  | suspend _ => exact h
  | resume _ => rwa [Session.resume_modeState]
  | cancel _ => exact h
  | expire _ => exact h

/-- **Every handoff session is legible.** -/
theorem legible (hbegun : SessionBegun d.prost (mode d) s) (ops : List Op) : Legible d s ops := by
  have hstart : ∃ st, s.modeState = d.codec.encode st := by
    obtain ⟨bound, env, response, _, hresp, rfl⟩ := hbegun.exists_start
    simp only [mode, onSessionStart] at hresp
    split_ifs at hresp
    cases hresp
    exact ⟨_, rfl⟩
  clear hbegun
  induction ops generalizing s with
  | nil =>
    obtain ⟨st, hbytes⟩ := hstart
    exact ⟨trivial, st, decodeState_of_encoded hbytes⟩
  | cons op ops ih =>
    have hafter : ∃ st, (op.apply (mode d) s).modeState = d.codec.encode st :=
      (op.apply_moves s).invariant (fun _ _ => move_writes) hstart
    obtain ⟨hreads, hend⟩ := ih hafter
    refine ⟨⟨?_, hreads⟩, hend⟩
    cases op with
    | step env nowMs =>
      intro state synthesized _
      obtain ⟨st, hbytes⟩ := hafter
      have hbytes' : (step s env (mode d) nowMs).1.modeState = d.codec.encode st := hbytes
      exact ⟨st, hbytes', by rw [hbytes', d.codec.decode_encode]⟩
    | _ => trivial

end Handoff

/-! ### Every mode -/

/-- A mode whose codec reads back what it wrote is legible in every run. -/
lemma StateMode.legible_of_begun {σ : Type} {m : StateMode σ}
    (h : ∀ st, m.decode (m.encode st) = some st) {prost : Prost} {s : Session}
    (hbegun : SessionBegun prost m.mode s) (ops : List Op) : m.Legible s ops := by
  obtain ⟨_, st, _, _, hbytes⟩ := modeState_of_begun hbegun
  exact legible (P := fun _ => True) (fun st _ => h st) (fun _ _ _ _ _ _ _ _ => trivial)
    ⟨st, hbytes, trivial⟩ (along_true s ops)

/-- A message that passes its checks is refused when the stored state cannot be read. -/
lemma StateMode.step_unreadable {σ : Type} {m : StateMode σ} {s : Session} {env : Envelope}
    {nowMs : Int64} (hheld : m.held s = none)
    (hpre : checkPreconditions s env nowMs = .ok .Proceed) (hauth : m.authorize s env = .ok ())
    (hscreen : m.screen env = .ok ()) :
    (step s env m.mode nowMs).2 = .error .InvalidModeState := by
  have hmsg : dispatch s env m.mode nowMs = .error .InvalidModeState := by
    change m.onMessage s env = _
    simp only [onMessage, hscreen, hheld]
  simp only [step, hpre, admitEnvelope_mode hauth, advance_eq, hmsg]

/-- **Stored mode state stays readable**: in every run of every built-in mode, where each
evaluation's confidence and each update's progress is a double that is read back from its text,
what each accepted message stored is read back as the state it wrote. -/
theorem mode_state_legible (s : Session) (ops : List Op) :
    (∀ d : Decision.Deps, SessionBegun d.prost (Decision.parts d).mode s →
        Along (Decision.parts d).mode (Decision.ExactConfidence d) s ops →
          (Decision.parts d).Legible s ops)
      ∧ (∀ d : Proposal.Deps, SessionBegun d.prost (Proposal.parts d).mode s →
        (Proposal.parts d).Legible s ops)
      ∧ (∀ d : Task.Deps, SessionBegun d.prost (Task.parts d).mode s →
        Along (Task.parts d).mode (Task.ExactProgress d) s ops → (Task.parts d).Legible s ops)
      ∧ (∀ d : Handoff.Deps, d.codec = Handoff.jsonState →
        SessionBegun d.prost (Handoff.mode d) s → Handoff.Legible d s ops)
      ∧ (∀ d : Quorum.Deps, SessionBegun d.prost (Quorum.parts d).mode s →
        (Quorum.parts d).Legible s ops)
      ∧ (∀ d : MultiRound.Deps, SessionBegun d.prost (MultiRound.parts d).mode s →
        (MultiRound.parts d).Legible s ops) :=
  ⟨fun _ hbegun hops => Decision.legible hbegun hops,
    fun d hbegun => StateMode.legible_of_begun (Proposal.parts_decode_encode d) hbegun ops,
    fun _ hbegun hops => Task.legible hbegun hops,
    fun _ _ hbegun => Handoff.legible hbegun ops,
    fun d hbegun => StateMode.legible_of_begun (Quorum.parts_decode_encode d) hbegun ops,
    fun d hbegun => StateMode.legible_of_begun (MultiRound.parts_decode_encode d) hbegun ops⟩

/-! ### Two evaluations -/

namespace Decision

def mergeProposal (p : ProposalPayload) : Protobuf.Field → Option ProposalPayload
  | (1, v) => v.asString.map fun x => { p with proposalId := x }
  | (2, v) => v.asString.map fun x => { p with option := x }
  | (3, v) => v.asString.map fun x => { p with rationale := x }
  | _ => some p

def mergeEvaluation (p : EvaluationPayload) : Protobuf.Field → Option EvaluationPayload
  | (1, v) => v.asString.map fun x => { p with proposalId := x }
  | (2, v) => v.asString.map fun x => { p with recommendation := x }
  | (3, v) => v.asDouble.map fun x => { p with confidence := x }
  | (4, v) => v.asString.map fun x => { p with reason := x }
  | _ => some p

def mergeVote (p : VotePayload) : Protobuf.Field → Option VotePayload
  | (1, v) => v.asString.map fun x => { p with proposalId := x }
  | (2, v) => v.asString.map fun x => { p with vote := x }
  | (3, v) => v.asString.map fun x => { p with reason := x }
  | _ => some p

/-- The mode with exact decimals. -/
def deps : Deps where
  prost := protobuf
  decodeProposal := mergeFields 3 mergeProposal ⟨"", "", ""⟩
  decodeEvaluation := mergeFields 4 mergeEvaluation ⟨"", "", 0, ""⟩
  decodeObjection := fun _ => none
  decodeVote := mergeFields 3 mergeVote ⟨"", "", ""⟩
  toUppercase := id
  toLowercase := id
  texts := exactDecimal
  reader := ⟨fun _ => none, fun _ => none⟩
  evaluator := defaultPolicyEvaluator .plain .plain

/-- A session without a policy. -/
def sampleSession : Session :=
  sampleSessionOf "macp.mode.decision.v1" none ((Codec.state exactDecimal).encode .default)

lemma sampleStart_accepted :
    acceptSessionStart protobuf (sampleStartOf "macp.mode.decision.v1") 5 (parts deps).mode none {}
      = .ok sampleSession := by
  rfl

lemma sampleSession_begun : SessionBegun deps.prost (parts deps).mode sampleSession :=
  .accepted sampleStart_accepted

/-- A message about the proposal `p`. -/
def sampleAbout (messageType messageId sender : String) (rest : Bytes) : Envelope :=
  sampleMessage "macp.mode.decision.v1" messageType messageId sender ([0x0A, 1, 112] ++ rest)

/-- The proposal of `p`. -/
def sampleProposal : Envelope := sampleAbout "Proposal" "m1" "a" [0x12, 1, 120]

/-- An approving evaluation with the given confidence, as its eight bytes. -/
def sampleEvaluation (confidence : Bytes) : Envelope :=
  sampleAbout "Evaluation" "m2" "b"
    ([0x12, 7, 65, 80, 80, 82, 79, 86, 69, 0x19] ++ confidence)

/-- One half. -/
def half : Bytes := [0, 0, 0, 0, 0, 0, 0xE0, 0x3F]

/-- Not a number. -/
def notANumber : Bytes := [0, 0, 0, 0, 0, 0, 0xF8, 0x7F]

/-- An approving vote. -/
def sampleVote : Envelope :=
  sampleAbout "Vote" "m3" "c" [0x12, 7, 65, 80, 80, 82, 79, 86, 69]

/-- The open proposal `p` with the given evaluations. -/
def sampleState (evaluations : List Evaluation) : State where
  proposals := (∅ : Std.ExtTreeMap String Proposal).insert "p" ⟨"p", "x", "", "a"⟩
  evaluations := evaluations
  objections := []
  votes := ∅
  phase := .Evaluation

/-- The session with its proposal. -/
def proposed : Session := (parts deps).after sampleSession sampleProposal (sampleState []) 10

/-- The state with a confidence that is not a number. -/
def nanState : State :=
  sampleState [⟨"p", "APPROVE", .ofBits 0x7FF8000000000000, "", "b"⟩]

/-- The session with it. -/
def evaluated : Session :=
  (parts deps).after proposed (sampleEvaluation notANumber) nanState 11

lemma held_sampleSession : (parts deps).held sampleSession = some .default :=
  StateMode.held_of_read (parts_decode_encode deps .default) rfl

lemma held_proposed : (parts deps).held proposed = some (sampleState []) :=
  StateMode.held_after (parts_decode_encode _ _)

lemma step_proposed : step sampleSession sampleProposal (parts deps).mode 10
    = (proposed, .ok (.Accepted .Open [])) :=
  StateMode.step_eq held_sampleSession rfl rfl rfl rfl

lemma step_evaluated : step proposed (sampleEvaluation notANumber) (parts deps).mode 11
    = (evaluated, .ok (.Accepted .Open [])) :=
  StateMode.step_eq held_proposed rfl rfl rfl rfl

lemma exact_half : deps.texts.Exact (.ofBits 0x3FE0000000000000) :=
  ⟨by decide +kernel, by decide +kernel⟩

lemma exactConfidence_half (s : Session) :
    ExactConfidence deps s (.step (sampleEvaluation half) 11) := by
  intro _ payload hdec
  have hhalf : deps.decodeEvaluation (sampleEvaluation half).payload
      = some ⟨"p", "APPROVE", .ofBits 0x3FE0000000000000, ""⟩ := rfl
  rw [hhalf] at hdec
  cases hdec
  exact exact_half

end Decision

namespace MultiRound

/-- The multi-round mode with its protobuf contributions. -/
def deps : Deps where
  prost := protobuf
  decodeContribute := mergeFields 1 (fun value f => if f.1 = 1 then f.2.asString else some value) ""
  encodeContribute := fun value => Protobuf.writeFields [(1, .len (Utf8.encode value))]
  contributeJson := fun _ => none

/-- A session before its first contribution. -/
def sampleSession : Session :=
  sampleSessionOf "ext.multi_round.v1" none
    ((parts deps).encode ⟨0, ["a", "b", "c"], ∅, "all_equal", false⟩)

lemma sampleStart_accepted :
    acceptSessionStart protobuf (sampleStartOf "ext.multi_round.v1") 5 (parts deps).mode none {}
      = .ok sampleSession := by
  rfl

lemma sampleSession_begun : SessionBegun deps.prost (parts deps).mode sampleSession :=
  .accepted sampleStart_accepted

/-- The contribution of one character. -/
def sampleContribution (messageId sender : String) (character : UInt8) : Envelope :=
  sampleMessage "ext.multi_round.v1" "Contribute" messageId sender [0x0A, 1, character]

/-- Everybody contributes, and `c` comes round to what the others say. -/
def agreedOps : List Op :=
  [.step (sampleContribution "m1" "a" 120) 10, .step (sampleContribution "m2" "b" 120) 11,
    .step (sampleContribution "m3" "c" 121) 12, .step (sampleContribution "m4" "c" 120) 13]

end MultiRound

/-- One half as a progress. -/
lemma Task.exactProgress_half (s : Session) :
    ExactProgress deps s (.step sampleUpdate 12) := by
  intro _ payload hdec
  have hhalf : deps.decodeTaskUpdate sampleUpdate.payload
      = some ⟨"t", "", .ofBits 0x3FE0000000000000, "", []⟩ := rfl
  rw [hhalf] at hdec
  cases hdec
  exact exact_half

theorem mode_state_legible_sample :
    (Decision.parts Decision.deps).Legible Decision.sampleSession
        [.step Decision.sampleProposal 10, .step (Decision.sampleEvaluation Decision.half) 11]
      ∧ (Proposal.parts Proposal.deps).Legible Proposal.sampleSession
        [.step (Proposal.sampleAbout "Proposal" "m1" "a" []) 10]
      ∧ (Task.parts Task.deps).Legible Task.sampleSession Task.workedOps
      ∧ Handoff.Legible Handoff.deps (Handoff.sampleSession 5)
        [.step Handoff.sampleOffer 10, .advance 200]
      ∧ (Quorum.parts Quorum.deps).Legible Quorum.sampleSession [.step (Quorum.sampleRequest 2) 10]
      ∧ (MultiRound.parts MultiRound.deps).Legible MultiRound.sampleSession
        MultiRound.agreedOps := by
  refine ⟨(mode_state_legible _ _).1 Decision.deps Decision.sampleSession_begun ?_,
    (mode_state_legible _ _).2.1 Proposal.deps (.accepted Proposal.sampleStart_accepted),
    (mode_state_legible _ _).2.2.1 Task.deps Task.sampleSession_begun ?_,
    (mode_state_legible _ _).2.2.2.1 Handoff.deps rfl Handoff.sampleSession_begun,
    (mode_state_legible _ _).2.2.2.2.1 Quorum.deps Quorum.sampleSession_begun,
    (mode_state_legible _ _).2.2.2.2.2 MultiRound.deps MultiRound.sampleSession_begun⟩
  · exact ⟨fun htype => absurd htype (by decide), Decision.exactConfidence_half _, trivial⟩
  · exact ⟨fun htype => absurd htype (by decide), fun htype => absurd htype (by decide),
      Task.exactProgress_half _, fun htype => absurd htype (by decide), trivial⟩

/-- **A confidence that is not a number ends a session**: the evaluation is accepted, the stored
state cannot be read, and the vote that follows is refused for it. -/
theorem evaluation_blocks_session :
    SessionBegun Decision.deps.prost (Decision.parts Decision.deps).mode Decision.sampleSession
      ∧ step Decision.sampleSession Decision.sampleProposal (Decision.parts Decision.deps).mode 10
        = (Decision.proposed, .ok (.Accepted .Open []))
      ∧ step Decision.proposed (Decision.sampleEvaluation Decision.notANumber)
          (Decision.parts Decision.deps).mode 11 = (Decision.evaluated, .ok (.Accepted .Open []))
      ∧ (Decision.parts Decision.deps).decode Decision.evaluated.modeState = none
      ∧ (step Decision.evaluated Decision.sampleVote (Decision.parts Decision.deps).mode 12).2
        = .error .InvalidModeState := by
  have hnone : (Decision.parts Decision.deps).decode
      ((Decision.parts Decision.deps).encode Decision.nanState) = none := by
    rw [Decision.parts_decode_encode]
    decide +kernel
  have hbytes : Decision.evaluated.modeState
      = (Decision.parts Decision.deps).encode Decision.nanState := StateMode.modeState_after _ _ _ _
  refine ⟨Decision.sampleSession_begun, Decision.step_proposed, Decision.step_evaluated, ?_, ?_⟩
  · rw [hbytes, hnone]
  · exact StateMode.step_unreadable ((StateMode.held_of_encoded hbytes).trans hnone) rfl rfl rfl

end MacpRuntime
