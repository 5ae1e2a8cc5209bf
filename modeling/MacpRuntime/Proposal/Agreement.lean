import MacpRuntime.Core.Messages
import MacpRuntime.Proposal.Mode

/-!
What stands behind a proposal commitment: the negotiation converges exactly on a live proposal that
meets the acceptance criterion, so **a commitment seals an agreement** where no terminal rejection
stands (`commitment_agreed`).  Where one does, the readiness that is meant for a decline lets an
approval through (`approval_after_rejection`).
-/

namespace MacpRuntime.Proposal

variable {d : Deps}

/-! ### Acceptance -/

/-- The accepts on record meet the criterion for the proposal. -/
def Meets (criterion : String) (session : Session) (st : State) (r : ProposalRecord) : Prop :=
  if criterion = "counterparty" then
    ∀ p ∈ session.participants, p ≠ r.proposer → st.accepts[p]? = some r.proposalId
  else if criterion = "initiator" then
    st.accepts[session.initiatorSender]? = some r.proposalId
  else session.participants ≠ [] ∧ ∀ p ∈ session.participants, st.accepts[p]? = some r.proposalId

/-- Some live proposal meets the bound criterion. -/
def Agreed (d : Deps) (session : Session) (st : State) : Prop :=
  ∃ (key : String) (r : ProposalRecord), st.proposals[key]? = some r ∧ r.disposition = .Live ∧
    Meets (boundRules d session).criterion session st r

variable {session : Session} {st : State}

lemma checkAcceptanceCriterion_iff {criterion : String} {r : ProposalRecord} :
    checkAcceptanceCriterion criterion session st r.proposalId r.proposer = true ↔
      Meets criterion session st r := by
  unfold checkAcceptanceCriterion Meets
  by_cases hcounter : criterion = "counterparty"
  · simp [hcounter, or_iff_not_imp_left]
  · by_cases hinit : criterion = "initiator"
    · simp [hinit]
    · simp [hcounter, hinit, participantsAllAccept]

/-- Without a terminal rejection the negotiation converges exactly on an agreement. -/
lemma currentPhase_converged (h : st.terminalRejections = []) :
    currentPhase d session st = .Converged ↔ Agreed d session st := by
  have hany : (st.proposals.toList.any fun e =>
      e.2.disposition == .Live && checkAcceptanceCriterion (boundRules d session).criterion session
        st e.2.proposalId e.2.proposer) = true ↔ Agreed d session st := by
    rw [List.any_eq_true]
    constructor
    · rintro ⟨⟨key, r⟩, hmem, hr⟩
      rw [Bool.and_eq_true, checkAcceptanceCriterion_iff] at hr
      exact ⟨key, r, Std.ExtTreeMap.mem_toList_iff_getElem?_eq_some.mp hmem, by simpa using hr.1,
        hr.2⟩
    · rintro ⟨key, r, hget, hlive, hmeets⟩
      refine ⟨(key, r), Std.ExtTreeMap.mem_toList_iff_getElem?_eq_some.mpr hget, ?_⟩
      rw [Bool.and_eq_true, checkAcceptanceCriterion_iff]
      exact ⟨by simpa using hlive, hmeets⟩
  rw [← hany]
  unfold currentPhase
  simp only [h, List.isEmpty_nil, Bool.not_true, Bool.false_eq_true, if_false]
  split
  · rename_i hyes
    exact iff_of_true rfl hyes
  · rename_i hno
    exact iff_of_false (by simp) hno

lemma currentPhase_ne_rejected (h : st.terminalRejections = []) :
    currentPhase d session st ≠ .TerminalRejected := by
  unfold currentPhase
  simp only [h, List.isEmpty_nil, Bool.not_true, Bool.false_eq_true, if_false]
  split <;> simp

/-! ### Commitments -/

lemma handleCommitment_ready {s : Session} {env : Envelope} {outcome : Outcome State}
    (h : handleCommitment d s env st = .ok outcome) :
    commitmentReady (refreshPhase d s st) = true := by
  unfold handleCommitment at h
  split at h
  · cases h
  · dsimp only at h
    split_ifs at h with hready
    simpa using hready

/-- **A commitment seals an agreement.**  In every run, an accepted commitment on a state without
a terminal rejection finds a live proposal that meets the bound acceptance criterion. -/
theorem commitment_agreed (d : Deps) (s : Session) (ops : List Op) (env : Envelope)
    (nowMs : Int64) (st : State) (state : SessionState) (synthesized : List Envelope) :
    let t := run (parts d).mode s ops
    (parts d).held t = some st → st.terminalRejections = [] →
    (step t env (parts d).mode nowMs).2 = .ok (.Accepted state synthesized) →
    env.messageType = "Commitment" → Agreed d t st := by
  intro t hheld hnone haccepted htype
  obtain ⟨st', outcome, htook, -⟩ := StateMode.step_accepted haccepted
  rw [htook.held] at hheld
  cases hheld
  have hhandled : handle d t env st = .ok outcome := htook.handled
  unfold handle at hhandled
  split at hhandled
  · cases hhandled
  · simp only [htype] at hhandled
    have hready := handleCommitment_ready hhandled
    rw [← currentPhase_converged hnone]
    simp only [commitmentReady, refreshPhase, Bool.or_eq_true, beq_iff_eq] at hready
    exact hready.resolve_right (currentPhase_ne_rejected hnone)

/-! ### A rejected negotiation -/

def mergeProposal (p : ProposalPayload) : Protobuf.Field → Option ProposalPayload
  | (1, v) => v.asString.map fun x => { p with proposalId := x }
  | (2, v) => v.asString.map fun x => { p with title := x }
  | (3, v) => v.asString.map fun x => { p with summary := x }
  | (4, v) => v.asBytes.map fun x => { p with details := x }
  | (5, v) => v.asString.map fun x => { p with tags := p.tags ++ [x] }
  | _ => some p

def mergeCounterProposal (p : CounterProposalPayload) :
    Protobuf.Field → Option CounterProposalPayload
  | (1, v) => v.asString.map fun x => { p with proposalId := x }
  | (2, v) => v.asString.map fun x => { p with supersedesProposalId := x }
  | (3, v) => v.asString.map fun x => { p with title := x }
  | (4, v) => v.asString.map fun x => { p with summary := x }
  | (5, v) => v.asBytes.map fun x => { p with details := x }
  | _ => some p

def mergeReject (p : RejectPayload) : Protobuf.Field → Option RejectPayload
  | (1, v) => v.asString.map fun x => { p with proposalId := x }
  | (2, v) => v.asVarint.map fun n => { p with terminal := n != 0 }
  | (3, v) => v.asString.map fun x => { p with reason := x }
  | _ => some p

/-- The proposal an accept or a withdrawal names. -/
def mergeProposalId (p : String) : Protobuf.Field → Option String
  | (1, v) => v.asString
  | (2, v) => v.asString.map fun _ => p
  | _ => some p

/-- The mode with the default evaluator. -/
def deps : Deps where
  prost := protobuf
  decodeProposal := mergeFields 5 mergeProposal ⟨"", "", "", [], []⟩
  decodeCounterProposal := mergeFields 5 mergeCounterProposal ⟨"", "", "", "", []⟩
  decodeAccept := mergeFields 2 mergeProposalId ""
  decodeReject := mergeFields 3 mergeReject ⟨"", false, ""⟩
  decodeWithdraw := mergeFields 2 mergeProposalId ""
  reader := ⟨fun _ => none, fun _ => none⟩
  schemas := .plain
  evaluator := defaultPolicyEvaluator .plain .plain

/-- A session without a policy. -/
def sampleSession : Session :=
  sampleSessionOf "macp.mode.proposal.v1" none (Codec.state.encode .default)

lemma sampleStart_accepted :
    acceptSessionStart protobuf (sampleStartOf "macp.mode.proposal.v1") 5 (parts deps).mode none {}
      = .ok sampleSession := by
  rfl

lemma held_sampleSession : (parts deps).held sampleSession = some .default :=
  StateMode.held_of_read (parts_decode_encode deps .default) rfl

/-- A message about the proposal `p`. -/
def sampleAbout (messageType messageId sender : String) (rest : Bytes) : Envelope :=
  sampleMessage "macp.mode.proposal.v1" messageType messageId sender ([0x0A, 1, 112] ++ rest)

/-- The live proposal `p` of `a`, accepted by the given participants. -/
def acceptedState (senders : List String) (phase : Phase) : State where
  proposals := (∅ : Std.ExtTreeMap String ProposalRecord).insert "p"
    ⟨"p", "", "", [], [], "a", none, .Live⟩
  accepts := senders.foldl (fun m p => m.insert p "p") ∅
  terminalRejections := []
  rejections := []
  phase := phase

/-- The same proposal, rejected for good by `b`. -/
def rejectedState : State :=
  { acceptedState [] .TerminalRejected with
    terminalRejections := [⟨"p", "b", ""⟩]
    rejections := [⟨"p", "b", "", true⟩] }

/-- The session with its proposal. -/
def proposed : Session :=
  (parts deps).after sampleSession (sampleAbout "Proposal" "m1" "a" [])
    (acceptedState [] .Negotiating) 10

/-- The session that `a` has accepted in. -/
def acceptedByA : Session :=
  (parts deps).after proposed (sampleAbout "Accept" "m2" "a" [])
    (acceptedState ["a"] .Negotiating) 11

/-- The session that `b` has accepted in, too. -/
def acceptedByB : Session :=
  (parts deps).after acceptedByA (sampleAbout "Accept" "m3" "b" [])
    (acceptedState ["a", "b"] .Negotiating) 12

/-- The session that all have accepted in. -/
def acceptedByAll : Session :=
  (parts deps).after acceptedByB (sampleAbout "Accept" "m4" "c" [])
    (acceptedState ["a", "b", "c"] .Converged) 13

/-- The session with a rejection. -/
def rejected : Session :=
  (parts deps).after proposed (sampleAbout "Reject" "m2" "b" [0x10, 1]) rejectedState 11

lemma step_proposed :
    step sampleSession (sampleAbout "Proposal" "m1" "a" []) (parts deps).mode 10
      = (proposed, .ok (.Accepted .Open [])) :=
  StateMode.step_eq held_sampleSession rfl rfl rfl rfl

lemma run_accepted :
    run (parts deps).mode sampleSession
      [.step (sampleAbout "Proposal" "m1" "a" []) 10, .step (sampleAbout "Accept" "m2" "a" []) 11,
        .step (sampleAbout "Accept" "m3" "b" []) 12, .step (sampleAbout "Accept" "m4" "c" []) 13]
      = acceptedByAll := by
  have ha : step proposed (sampleAbout "Accept" "m2" "a" []) (parts deps).mode 11
      = (acceptedByA, .ok (.Accepted .Open [])) :=
    StateMode.step_eq (StateMode.held_after (parts_decode_encode _ _)) rfl rfl rfl rfl
  have hb : step acceptedByA (sampleAbout "Accept" "m3" "b" []) (parts deps).mode 12
      = (acceptedByB, .ok (.Accepted .Open [])) :=
    StateMode.step_eq (StateMode.held_after (parts_decode_encode _ _)) rfl rfl rfl rfl
  have hc : step acceptedByB (sampleAbout "Accept" "m4" "c" []) (parts deps).mode 13
      = (acceptedByAll, .ok (.Accepted .Open [])) :=
    StateMode.step_eq (StateMode.held_after (parts_decode_encode _ _)) rfl rfl rfl rfl
  rw [run_step step_proposed, run_step ha, run_step hb, run_step hc, run_nil]

lemma run_rejected :
    run (parts deps).mode sampleSession
      [.step (sampleAbout "Proposal" "m1" "a" []) 10,
        .step (sampleAbout "Reject" "m2" "b" [0x10, 1]) 11] = rejected := by
  have hreject : step proposed (sampleAbout "Reject" "m2" "b" [0x10, 1]) (parts deps).mode 11
      = (rejected, .ok (.Accepted .Open [])) :=
    StateMode.step_eq (StateMode.held_after (parts_decode_encode _ _)) rfl rfl rfl rfl
  rw [run_step step_proposed, run_step hreject, run_nil]

/-- The commitment of the sample session. -/
def sampleCommitment : Envelope := sampleCommitmentOf "macp.mode.proposal.v1" "m5" true

/-- All three accept the proposal, and the commitment seals it. -/
theorem commitment_agreed_sample :
    Agreed deps acceptedByAll (acceptedState ["a", "b", "c"] .Converged) := by
  have hheld : (parts deps).held acceptedByAll = some (acceptedState ["a", "b", "c"] .Converged) :=
    StateMode.held_after (parts_decode_encode _ _)
  have hhandle : (parts deps).handle acceptedByAll sampleCommitment
      (acceptedState ["a", "b", "c"] .Converged)
        = .ok ⟨acceptedState ["a", "b", "c"] .Committed, some sampleCommitment.payload⟩ := rfl
  have h := commitment_agreed deps sampleSession
    [.step (sampleAbout "Proposal" "m1" "a" []) 10, .step (sampleAbout "Accept" "m2" "a" []) 11,
      .step (sampleAbout "Accept" "m3" "b" []) 12, .step (sampleAbout "Accept" "m4" "c" []) 13]
    sampleCommitment 14 (acceptedState ["a", "b", "c"] .Converged) .Resolved []
  rw [run_accepted] at h
  refine h hheld rfl ?_ rfl
  rw [StateMode.step_eq hheld rfl rfl rfl hhandle]
  rfl

/-- A terminal rejection and nothing else: the positive commitment is accepted although nobody
accepted anything. -/
theorem approval_after_rejection :
    let t := run (parts deps).mode sampleSession
      [.step (sampleAbout "Proposal" "m1" "a" []) 10,
        .step (sampleAbout "Reject" "m2" "b" [0x10, 1]) 11]
    SessionBegun deps.prost (parts deps).mode sampleSession ∧
    (step t sampleCommitment (parts deps).mode 12).2 = .ok (.Accepted .Resolved []) ∧
    (deps.prost.decodeCommitment sampleCommitment.payload).map (·.outcomePositive) = some true ∧
    ∃ st, (parts deps).held t = some st ∧ st.accepts = ∅ ∧ ¬ Agreed deps t st := by
  intro t
  have ht : t = rejected := run_rejected
  have hheld : (parts deps).held rejected = some rejectedState :=
    StateMode.held_after (parts_decode_encode _ _)
  have hhandle : (parts deps).handle rejected sampleCommitment rejectedState
      = .ok ⟨{ rejectedState with phase := .Committed }, some sampleCommitment.payload⟩ := rfl
  rw [ht]
  refine ⟨.accepted sampleStart_accepted, ?_, rfl, rejectedState, hheld, rfl, ?_⟩
  · rw [StateMode.step_eq hheld rfl rfl rfl hhandle]
    rfl
  · rintro ⟨key, r, -, -, hmeets⟩
    have haccept := hmeets.2 "a" (by decide)
    simp [rejectedState, acceptedState] at haccept

end MacpRuntime.Proposal
