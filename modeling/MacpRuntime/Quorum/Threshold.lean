import MacpRuntime.Core.Messages
import MacpRuntime.Quorum.Mode

/-!
How many approvals stand behind a positive quorum commitment: **those the session reports as its
threshold**, where the policy sets a bar of its own or the request can still be approved
(`positive_commitment_has_quorum`).  Otherwise the readiness that is meant for a decline lets an
approval through (`approval_without_quorum`).
-/

namespace MacpRuntime.Quorum

variable {d : Deps}

/-! ### Ballots and participants -/

/-- Every ballot is a declared participant's. -/
def State.Enrolled (participants : List String) (st : State) : Prop :=
  ∀ voter ballot, st.ballots[voter]? = some ballot → voter ∈ participants

variable {env : Envelope} {outcome : Outcome State} {s : Session} {st : State} {required : UInt32}

lemma handleApprovalRequest_eq_ok (h : handleApprovalRequest d s env st = .ok outcome) :
    ∃ request, outcome = .persist { st with request := some request } := by
  unfold handleApprovalRequest at h
  split_ifs at h
  split at h
  · cases h
  · split_ifs at h
    split at h
    · cases h
    · cases h
      exact ⟨_, rfl⟩

/-- A ballot is the sender's first. -/
lemma handleBallot_eq_ok {decode : Bytes → Option BallotPayload} {choice : BallotChoice}
    (h : handleBallot decode choice env st = .ok outcome) :
    ∃ ballot, ballot.sender = env.sender ∧ st.ballots[env.sender]? = none
      ∧ outcome = .persist { st with ballots := st.ballots.insert env.sender ballot } := by
  unfold handleBallot at h
  split at h
  · cases h
  · split at h
    · cases h
    · split_ifs at h with hbad
      rw [not_or] at hbad
      cases h
      exact ⟨_, rfl, Std.ExtTreeMap.getElem?_eq_none (by simpa using hbad.2), rfl⟩

/-- What an accepted commitment has passed. -/
lemma handleCommitment_eq_ok (h : handleCommitment d s env st = .ok outcome) :
    outcome.state = st ∧ commitmentReady d s st = true ∧
      ∃ commitment, d.prost.decodeCommitment env.payload = some commitment ∧
        enforceCommitmentPolicy d.evaluator s
          (.Quorum (st.count .Approve) (st.count .Reject) (st.count .Abstain))
          commitment.outcomePositive = .ok () := by
  unfold handleCommitment at h
  split at h
  · cases h
  · rename_i commitment hvalid
    split_ifs at h with hready
    split at h
    · cases h
    · rename_i henforce
      cases h
      exact ⟨rfl, by simpa using hready, commitment, decodeCommitment_of_validate hvalid, henforce⟩

/-- Ballots come from declared participants. -/
lemma declared_of_authorized (h : authorizeSender d s env = .ok ())
    (hrequest : env.messageType ≠ "ApprovalRequest") (hcommit : env.messageType ≠ "Commitment") :
    env.sender ∈ s.participants := by
  unfold authorizeSender at h
  simp only [beq_iff_eq, hrequest, hcommit, if_false] at h
  split_ifs at h with hmem
  simpa [isDeclaredParticipant] using hmem

/-- The types of a ballot. -/
def ballotTypes : List String := ["Approve", "Reject", "Abstain"]

section

variable (h : (parts d).Took s env st outcome)

include h

/-- A ballot that was accepted is a declared participant's first. -/
lemma took_ballot (htype : env.messageType ∈ ballotTypes) :
    env.sender ∈ s.participants ∧ ∃ ballot, ballot.sender = env.sender
      ∧ st.ballots[env.sender]? = none
      ∧ outcome = .persist { st with ballots := st.ballots.insert env.sender ballot } := by
  have hhandled : handle d s env st = .ok outcome := h.handled
  simp only [ballotTypes, List.mem_cons, List.not_mem_nil, or_false] at htype
  rcases htype with htype | htype | htype
  all_goals
    refine ⟨declared_of_authorized h.authorized (by simp [htype]) (by simp [htype]), ?_⟩
    simp only [handle, htype] at hhandled
    exact handleBallot_eq_ok hhandled

/-- What is neither a request nor a commitment is a ballot. -/
lemma took_cases :
    (env.messageType = "ApprovalRequest"
        ∧ ∃ request, outcome = .persist { st with request := some request })
      ∨ env.messageType ∈ ballotTypes
      ∨ env.messageType = "Commitment" ∧ outcome.state = st := by
  have hhandled : handle d s env st = .ok outcome := h.handled
  unfold handle at hhandled
  split_ifs at hhandled with h1 h2 h3 h4 h5
  · exact .inl ⟨by simpa using h1, handleApprovalRequest_eq_ok hhandled⟩
  · exact .inr (.inl (by simp [ballotTypes, (beq_iff_eq.mp h2)]))
  · exact .inr (.inl (by simp [ballotTypes, (beq_iff_eq.mp h3)]))
  · exact .inr (.inl (by simp [ballotTypes, (beq_iff_eq.mp h4)]))
  · exact .inr (.inr ⟨by simpa using h5, (handleCommitment_eq_ok hhandled).1⟩)

/-- A message adds at most the sender's ballot, and only a declared participant's. -/
lemma took_ballots :
    outcome.state.ballots = st.ballots ∨
      env.sender ∈ s.participants ∧
        ∃ ballot, outcome.state.ballots = st.ballots.insert env.sender ballot := by
  rcases took_cases h with ⟨-, request, rfl⟩ | htype | ⟨-, hsame⟩
  · exact .inl rfl
  · obtain ⟨hmem, ballot, -, -, rfl⟩ := took_ballot h htype
    exact .inr ⟨hmem, ballot, rfl⟩
  · exact .inl (congrArg State.ballots hsame)

lemma took_enrolled (hst : st.Enrolled s.participants) : outcome.state.Enrolled s.participants := by
  intro voter ballot hget
  rcases took_ballots h with hsame | ⟨hmem, ballot', hins⟩
  · exact hst voter ballot (hsame ▸ hget)
  · rw [hins, Std.ExtTreeMap.getElem?_insert] at hget
    split_ifs at hget with hkey
    · rw [← Std.compare_eq_iff_eq.mp hkey]
      exact hmem
    · exact hst voter ballot hget

end

/-- A session begins without a ballot. -/
lemma held_of_begun {prost : Prost} (h : SessionBegun prost (parts d).mode s) :
    (parts d).held s = some .default :=
  (parts_startsWith d).held h (parts_decode_encode d _)

/-- **In every run ballots are declared participants'.** -/
theorem enrolled_run {prost : Prost} (h : SessionBegun prost (parts d).mode s) (ops : List Op)
    (hst : (parts d).held (run (parts d).mode s ops) = some st) : st.Enrolled s.participants := by
  refine StateMode.run_holds (P := State.Enrolled s.participants) ?_ ?_ ?_ ops st hst
  · intro st₀ hst₀ voter ballot hget
    rw [held_of_begun h] at hst₀
    cases hst₀
    simp [State.default] at hget
  · intro st₁ st₂ hread hst₁
    rw [parts_decode_encode] at hread
    cases hread
    exact hst₁
  · intro t env st₁ outcome hbind htook hst₁
    have hpart : t.participants = s.participants := congrArg (·.participants) hbind
    rw [← hpart] at hst₁ ⊢
    exact took_enrolled htook hst₁

/-! ### Approvals -/

/-- The declared participants whose ballot approves. -/
def State.approvers (participants : List String) (st : State) : Finset String :=
  participants.toFinset.filter fun p => st.ballots[p]?.map (·.choice) = some .Approve

/-- The entries of a map that pass a test are counted by their keys. -/
lemma countP_toList_le_card {α : Type} {m : Std.ExtTreeMap String α} {p : String × α → Bool}
    {keys : Finset String} (h : ∀ k a, m[k]? = some a → p (k, a) = true → k ∈ keys) :
    m.toList.countP p ≤ keys.card := by
  have hnodup : ((m.toList.filter p).map (·.1)).Nodup := by
    have hdistinct := Std.ExtTreeMap.distinct_keys_toList (t := m)
    rw [List.Nodup, List.pairwise_map]
    refine (hdistinct.filter p).imp fun hne heq => hne ?_
    rw [heq]
    exact Std.ReflCmp.compare_self
  rw [List.countP_eq_length_filter, ← List.length_map (f := (·.1)),
    ← List.toFinset_card_of_nodup hnodup]
  refine Finset.card_le_card fun k hk => ?_
  rw [List.mem_toFinset, List.mem_map] at hk
  obtain ⟨⟨k', a⟩, hmem, rfl⟩ := hk
  rw [List.mem_filter, Std.ExtTreeMap.mem_toList_iff_getElem?_eq_some] at hmem
  exact h k' a hmem.1 hmem.2

/-- The mode counts the approvals of declared participants. -/
lemma count_le_approvers {participants : List String} (h : st.Enrolled participants) :
    st.count .Approve ≤ (st.approvers participants).card := by
  refine countP_toList_le_card fun voter ballot hget hchoice => ?_
  rw [State.approvers, Finset.mem_filter, List.mem_toFinset]
  refine ⟨h voter ballot hget, ?_⟩
  rw [hget, Option.map_some]
  simpa using hchoice

/-- The request can still be approved with the ballots to come. -/
def Approvable (s : Session) (st : State) : Prop :=
  ∀ request, st.request = some request →
    request.requiredApprovals ≤ UInt32.ofNat (st.count .Approve) + remaining s st

lemma le_count_of_le {n : ℕ} (h : required ≤ UInt32.ofNat n) : required.toNat ≤ n := by
  rw [UInt32.le_iff_toNat_le, UInt32.toNat_ofNat'] at h
  exact h.trans (Nat.mod_le _ _)

/-- A bar the policy sets is checked by the evaluator on every approval. -/
lemma le_count_of_enforced {render : Rendering}
    (heval : d.evaluator = defaultPolicyEvaluator d.schemas render)
    (hpolicy : policyThreshold d s = .Approvals required)
    (h : enforceCommitmentPolicy d.evaluator s
      (.Quorum (st.count .Approve) (st.count .Reject) (st.count .Abstain)) true = .ok ()) :
    required.toNat ≤ st.count .Approve := by
  cases hbound : s.policyDefinition with
  | none =>
    rw [policyThreshold, hbound] at hpolicy
    cases hpolicy
  | some policy =>
    rw [policyThreshold, hbound] at hpolicy
    have hallows := enforceCommitmentPolicy_eq_ok.mp h policy hbound
    rw [heval] at hallows
    obtain ⟨-, rules, hrules, hfindings⟩ := withRules_allows.mp hallows
    -- rules the evaluator could read are the ones the mode works with
    have hsame : d.schemas.quorumOrDefault policy.rules = rules := by
      simp [RuleSchemas.quorumOrDefault, hrules, Except.toOption]
    simp only [hsame] at hpolicy
    rw [Findings.conclude_allows, Findings.deny_append, List.append_eq_nil_iff] at hfindings
    by_contra hlt
    have hbar := hfindings.1
    simp only [checkApprovals, hpolicy] at hbar
    rw [if_pos (by simpa using hlt)] at hbar
    cases hbar

/-- The threshold a session reports is that of the request it holds. -/
lemma effectiveThresholdForSession_eq_ok {threshold : ApprovalThreshold}
    (h : effectiveThresholdForSession d s = .ok (some threshold)) :
    ∃ st request, (parts d).held s = some st ∧ st.request = some request ∧
      effectiveThreshold d s request = threshold := by
  unfold effectiveThresholdForSession at h
  split_ifs at h with hempty
  · cases h
  · split at h
    · cases h
    · rename_i st hst
      rw [Except.ok.injEq, Option.map_eq_some_iff] at h
      obtain ⟨request, hrequest, hthreshold⟩ := h
      refine ⟨st, request, ?_, hrequest, hthreshold⟩
      rw [StateMode.held, if_neg hempty]
      exact hst

lemma effectiveThresholdForSession_of_encoded (h : s.modeState = (parts d).encode st) :
    effectiveThresholdForSession d s = .ok (st.request.map (effectiveThreshold d s)) := by
  have hbytes : s.modeState = Codec.state.encode st := h
  rw [effectiveThresholdForSession, hbytes, if_neg (by simpa using Codec.state.encode_ne_nil st),
    Codec.state.decode_encode]

/-- **A positive commitment has its quorum.**  In every run, an accepted positive commitment has
at least as many approving participants as the session reports as its threshold, provided that
the policy sets a bar of its own or that the request could still be approved. -/
theorem positive_commitment_has_quorum (d : Deps) (render : Rendering)
    (heval : d.evaluator = defaultPolicyEvaluator d.schemas render) (s : Session)
    (hbegun : SessionBegun d.prost (parts d).mode s) (ops : List Op) (env : Envelope)
    (nowMs : Int64) (commitment : CommitmentPayload) (required : UInt32) (state : SessionState)
    (synthesized : List Envelope) :
    let t := run (parts d).mode s ops
    (policyThreshold d t ≠ .Inert ∨ ∀ st, (parts d).held t = some st → Approvable t st) →
    (step t env (parts d).mode nowMs).2 = .ok (.Accepted state synthesized) →
    env.messageType = "Commitment" → d.prost.decodeCommitment env.payload = some commitment →
    commitment.outcomePositive = true →
    effectiveThresholdForSession d t = .ok (some (.Approvals required)) →
    ∃ st, (parts d).held t = some st ∧ required.toNat ≤ (st.approvers t.participants).card := by
  intro t hcond haccepted htype hdecode hpositive hthreshold
  obtain ⟨st, outcome, htook, -⟩ := StateMode.step_accepted haccepted
  obtain ⟨st', request, hheld, hrequest, heffective⟩ :=
    effectiveThresholdForSession_eq_ok hthreshold
  rw [htook.held] at hheld
  cases hheld
  refine ⟨st, htook.held, ?_⟩
  have hpart : t.participants = s.participants :=
    congrArg (·.participants) (run_bindings s ops)
  have henrolled : st.Enrolled t.participants := hpart ▸ enrolled_run hbegun ops htook.held
  refine le_trans ?_ (count_le_approvers henrolled)
  have hhandled : handle d t env st = .ok outcome := htook.handled
  simp only [handle, htype] at hhandled
  obtain ⟨-, hready, decoded, hdecoded, henforced⟩ := handleCommitment_eq_ok hhandled
  rw [hdecode] at hdecoded
  cases hdecoded
  rw [hpositive] at henforced
  unfold effectiveThreshold at heffective
  split at heffective
  · -- the bar is the request's own: only the readiness test looks at it
    rename_i hinert
    cases heffective
    have happrovable := hcond.resolve_left (not_not.mpr hinert) st htook.held request hrequest
    simp only [commitmentReady, hrequest, effectiveThreshold, hinert, Bool.or_eq_true,
      decide_eq_true_eq] at hready
    rcases hready with hmet | hlost
    · exact le_count_of_le hmet
    · exact absurd happrovable (UInt32.not_le.mpr hlost)
  · rename_i bar hbar
    cases heffective
    exact le_count_of_enforced heval hbar henforced
  · cases heffective

/-! ### Sample sessions -/

def mergeApprovalRequest (p : ApprovalRequestPayload) :
    Protobuf.Field → Option ApprovalRequestPayload
  | (1, v) => v.asString.map fun x => { p with requestId := x }
  | (2, v) => v.asString.map fun x => { p with action := x }
  | (3, v) => v.asString.map fun x => { p with summary := x }
  | (4, v) => v.asBytes.map fun x => { p with details := x }
  | (5, v) => v.asVarint.map fun n => { p with requiredApprovals := .ofNat n }
  | _ => some p

def mergeBallot (p : BallotPayload) : Protobuf.Field → Option BallotPayload
  | (1, v) => v.asString.map fun x => { p with requestId := x }
  | (2, v) => v.asString.map fun x => { p with reason := x }
  | _ => some p

/-- The mode with the default evaluator. -/
def deps : Deps where
  prost := protobuf
  decodeApprovalRequest := mergeFields 5 mergeApprovalRequest ⟨"", "", "", [], 0⟩
  decodeApprove := mergeFields 2 mergeBallot ⟨"", ""⟩
  decodeReject := mergeFields 2 mergeBallot ⟨"", ""⟩
  decodeAbstain := mergeFields 2 mergeBallot ⟨"", ""⟩
  reader := ⟨fun _ => none, fun _ => none⟩
  schemas := .plain
  evaluator := defaultPolicyEvaluator .plain .plain

/-- A session without a policy. -/
def sampleSession : Session :=
  sampleSessionOf "macp.mode.quorum.v1" none (Codec.state.encode .default)

lemma sampleStart_accepted :
    acceptSessionStart protobuf (sampleStartOf "macp.mode.quorum.v1") 5 (parts deps).mode none {}
      = .ok sampleSession := by
  rfl

lemma sampleSession_begun : SessionBegun deps.prost (parts deps).mode sampleSession :=
  .accepted sampleStart_accepted

/-- The request `r` for the given number of approvals. -/
def sampleRequest (required : UInt8) : Envelope :=
  sampleMessage "macp.mode.quorum.v1" "ApprovalRequest" "m1" "a" [0x0A, 1, 114, 0x28, required]

/-- A ballot on the request. -/
def sampleBallot (choice messageId sender : String) : Envelope :=
  sampleMessage "macp.mode.quorum.v1" choice messageId sender [0x0A, 1, 114]

/-- The state with the request and the given ballots. -/
def sampleState (required : UInt32) (ballots : List (String × BallotChoice)) : State where
  request := some ⟨"r", "", "", [], required, "a"⟩
  ballots := ballots.foldl (fun m b => m.insert b.1 ⟨"r", b.2, b.1, ""⟩) ∅

/-- Without a policy the request's own number is the threshold. -/
lemma threshold_of_sample {t : Session} {ballots : List (String × BallotChoice)}
    (hbytes : t.modeState = (parts deps).encode (sampleState required ballots))
    (hpolicy : t.policyDefinition = none) :
    effectiveThresholdForSession deps t = .ok (some (.Approvals required)) := by
  have hinert : policyThreshold deps t = .Inert := by rw [policyThreshold, hpolicy]
  rw [effectiveThresholdForSession_of_encoded hbytes, sampleState, Option.map_some,
    effectiveThreshold, hinert]

/-- The positive commitment of the sample session. -/
def sampleCommitment : Envelope := sampleCommitmentOf "macp.mode.quorum.v1" "m4" true

/-- The session with its request. -/
def requested (required : UInt8) : Session :=
  (parts deps).after sampleSession (sampleRequest required) (sampleState required.toUInt32 []) 10

lemma step_request (required : UInt8) (h : required = 1 ∨ required = 2) :
    step sampleSession (sampleRequest required) (parts deps).mode 10
      = (requested required, .ok (.Accepted .Open [])) := by
  rcases h with rfl | rfl <;>
    exact StateMode.step_eq (held_of_begun sampleSession_begun) rfl rfl rfl rfl

/-- The session with an approval. -/
def approved : Session :=
  (parts deps).after (requested 1) (sampleBallot "Approve" "m2" "b")
    (sampleState 1 [("b", .Approve)]) 11

lemma run_approved :
    run (parts deps).mode sampleSession
      [.step (sampleRequest 1) 10, .step (sampleBallot "Approve" "m2" "b") 11] = approved := by
  have hballot : step (requested 1) (sampleBallot "Approve" "m2" "b") (parts deps).mode 11
      = (approved, .ok (.Accepted .Open [])) :=
    StateMode.step_eq (StateMode.held_after (parts_decode_encode _ _)) rfl rfl rfl rfl
  rw [run_step (step_request 1 (.inl rfl)), run_step hballot, run_nil]

/-- One approval is enough where one is required. -/
theorem positive_commitment_has_quorum_sample :
    ∃ st, (parts deps).held approved = some st ∧
      (1 : UInt32).toNat ≤ (st.approvers approved.participants).card := by
  have hheld : (parts deps).held approved = some (sampleState 1 [("b", .Approve)]) :=
    StateMode.held_after (parts_decode_encode _ _)
  have hhandle : (parts deps).handle approved sampleCommitment
      (sampleState 1 [("b", .Approve)]) = .ok ⟨sampleState 1 [("b", .Approve)],
        some sampleCommitment.payload⟩ := rfl
  have h := positive_commitment_has_quorum deps .plain rfl sampleSession sampleSession_begun
    [.step (sampleRequest 1) 10, .step (sampleBallot "Approve" "m2" "b") 11]
    sampleCommitment 12
    ⟨"c", "x", "s", "r", "1", "", "1", true, none⟩ 1 .Resolved []
  rw [run_approved] at h
  refine h (.inr fun st hst request hrequest => ?_) ?_ rfl rfl rfl ?_
  · rw [hheld] at hst
    cases hst
    cases hrequest
    decide
  · rw [StateMode.step_eq hheld rfl rfl rfl hhandle]
    rfl
  · rw [approved]
    exact threshold_of_sample (StateMode.modeState_after _ _ _ _) rfl

/-- The session with one rejection. -/
def rejectedOnce : Session :=
  (parts deps).after (requested 2) (sampleBallot "Reject" "m2" "b")
    (sampleState 2 [("b", .Reject)]) 11

/-- The session with two rejections. -/
def rejectedTwice : Session :=
  (parts deps).after rejectedOnce (sampleBallot "Reject" "m3" "c")
    (sampleState 2 [("b", .Reject), ("c", .Reject)]) 12

lemma step_rejected : step (requested 2) (sampleBallot "Reject" "m2" "b") (parts deps).mode 11
    = (rejectedOnce, .ok (.Accepted .Open [])) :=
  StateMode.step_eq (StateMode.held_after (parts_decode_encode _ _)) rfl rfl rfl rfl

lemma run_rejected :
    run (parts deps).mode sampleSession
      [.step (sampleRequest 2) 10, .step (sampleBallot "Reject" "m2" "b") 11,
        .step (sampleBallot "Reject" "m3" "c") 12] = rejectedTwice := by
  have hsecond : step rejectedOnce (sampleBallot "Reject" "m3" "c") (parts deps).mode 12
      = (rejectedTwice, .ok (.Accepted .Open [])) :=
    StateMode.step_eq (StateMode.held_after (parts_decode_encode _ _)) rfl rfl rfl rfl
  rw [run_step (step_request 2 (.inr rfl)), run_step step_rejected, run_step hsecond, run_nil]

/-- Two approvals are required and two of the three participants reject: the positive
commitment is accepted without a single approval. -/
theorem approval_without_quorum :
    let t := run (parts deps).mode sampleSession
      [.step (sampleRequest 2) 10, .step (sampleBallot "Reject" "m2" "b") 11,
        .step (sampleBallot "Reject" "m3" "c") 12]
    (step t sampleCommitment (parts deps).mode 13).2 = .ok (.Accepted .Resolved []) ∧
    (deps.prost.decodeCommitment sampleCommitment.payload).map (·.outcomePositive) = some true ∧
    effectiveThresholdForSession deps t = .ok (some (.Approvals 2)) ∧
    ∃ st, (parts deps).held t = some st ∧ st.approvers t.participants = ∅ := by
  intro t
  have hheld : (parts deps).held rejectedTwice
      = some (sampleState 2 [("b", .Reject), ("c", .Reject)]) :=
    StateMode.held_after (parts_decode_encode _ _)
  have hhandle : (parts deps).handle rejectedTwice sampleCommitment
      (sampleState 2 [("b", .Reject), ("c", .Reject)])
        = .ok ⟨sampleState 2 [("b", .Reject), ("c", .Reject)], some sampleCommitment.payload⟩ := rfl
  have ht : t = rejectedTwice := run_rejected
  rw [ht]
  refine ⟨?_, rfl, ?_, _, hheld, by decide⟩
  · rw [StateMode.step_eq hheld rfl rfl rfl hhandle]
    rfl
  · rw [rejectedTwice]
    exact threshold_of_sample (StateMode.modeState_after _ _ _ _) rfl

end MacpRuntime.Quorum
