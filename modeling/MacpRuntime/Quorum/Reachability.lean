import MacpRuntime.Lib.Entries
import MacpRuntime.Quorum.Threshold

/-!
When a quorum session is ready for its commitment.

The readiness test is arithmetic: the approvals are there, or together with the participants that
have not voted they are too few.  Read over the ballots that can still be accepted, it asks whether
the threshold can still be reached: **the session is ready exactly if the approvals are there or no
sequence of accepted ballots brings them about** (`readiness_is_reachability`).  The test counts the
roster, so it needs a start under the canonical contract: with a name declared twice a session is
never ready (`repeated_name_never_ready`).
-/

namespace MacpRuntime.Quorum

open Std

variable {d : Deps}

/-- An accepted message of one of the given types. -/
def Accepts (d : Deps) (types : List String) (t t' : Session) : Prop :=
  ∃ env nowMs state synthesized, env.messageType ∈ types
    ∧ step t env (parts d).mode nowMs = (t', .ok (.Accepted state synthesized))

/-- A sequence of accepted ballots. -/
abbrev Casts (d : Deps) : Session → Session → Prop :=
  Relation.ReflTransGen (Accepts d ballotTypes)

/-- Every ballot is a declared participant's, under its own name. -/
def State.Polled (participants : List String) (st : State) : Prop :=
  ∀ (voter : String) (ballot : BallotRecord), st.ballots[voter]? = some ballot →
    voter ∈ participants ∧ ballot.sender = voter

/-- A session that began as `s`, before its commitment, with the state it holds. -/
structure Poll (d : Deps) (s t : Session) (st : State) : Prop where
  stored : t.modeState = (parts d).encode st
  opened : t.state = .Open
  bound : t.bindings = s.bindings
  polled : st.Polled s.participants

variable {s : Session} {st : State}

lemma Poll.held {t : Session} (h : Poll d s t st) : (parts d).held t = some st :=
  StateMode.held_of_read (parts_decode_encode d st) h.stored

lemma Poll.participants {t : Session} (h : Poll d s t st) :
    t.participants = s.participants := congrArg Session.Bindings.participants h.bound

lemma Poll.begin {prost : Prost} (h : SessionBegun prost (parts d).mode s) :
    Poll d s s .default := by
  refine ⟨(parts_startsWith d).modeState h, StateMode.open_of_begun h, rfl, ?_⟩
  intro voter ballot hget
  simp [State.default] at hget

/-! ### Ballots -/

section Ballots

variable {participants : List String} {st : State}

/-- One more ballot. -/
def State.cast (st : State) (ballot : BallotRecord) : State :=
  { st with ballots := st.ballots.insert ballot.sender ballot }

variable {ballot : BallotRecord}

lemma State.Polled.cast (h : st.Polled participants) (hmem : ballot.sender ∈ participants) :
    (st.cast ballot).Polled participants := by
  intro voter ballot' hget
  rw [State.cast, ExtTreeMap.getElem?_insert] at hget
  split_ifs at hget with hkey
  · cases hget
    have hvoter := Std.compare_eq_iff_eq.mp hkey
    exact ⟨hvoter ▸ hmem, hvoter⟩
  · exact h voter ballot' hget

section

variable (hfirst : st.ballots[ballot.sender]? = none)

include hfirst

/-- A first ballot leaves the others as they were. -/
lemma State.ballots_cast {voter : String} {old : BallotRecord} (h : st.ballots[voter]? = some old) :
    (st.cast ballot).ballots[voter]? = some old := by
  have hne : ballot.sender ≠ voter := by
    rintro rfl
    rw [hfirst] at h
    cases h
  rw [State.cast, ExtTreeMap.getElem?_insert,
    if_neg fun hkey => hne (Std.compare_eq_iff_eq.mp hkey), h]

lemma State.count_cast :
    (st.cast ballot).count .Approve
      = st.count .Approve + if ballot.choice = .Approve then 1 else 0 := by
  rw [State.count, State.cast, Entries.countP_insert_new hfirst]
  simp [State.count]

lemma State.size_cast : (st.cast ballot).ballots.size = st.ballots.size + 1 := by
  rw [State.cast, ExtTreeMap.size_insert, if_neg]
  intro hmem
  rw [ExtTreeMap.contains_iff_mem, ExtTreeMap.mem_iff_isSome_getElem?, hfirst] at hmem
  cases hmem

end

/-- The participants that have not voted. -/
def State.silent (participants : List String) (st : State) : List String :=
  participants.filter fun p => !st.ballots.contains p

/-- Whoever of distinct participants has voted is counted once. -/
lemma State.Polled.size_add_silent (h : st.Polled participants) (hnodup : participants.Nodup) :
    st.ballots.size + (st.silent participants).length = participants.length := by
  have hvoted : (participants.filter st.ballots.contains).Perm st.ballots.keys := by
    refine (List.perm_ext_iff_of_nodup (hnodup.filter _) ExtTreeMap.nodup_keys).mpr ?_
    intro voter
    rw [List.mem_filter, ExtTreeMap.mem_keys, ExtTreeMap.contains_iff_mem,
      and_iff_right_iff_imp]
    intro hmem
    rw [ExtTreeMap.mem_iff_isSome_getElem?] at hmem
    obtain ⟨ballot, hget⟩ := Option.isSome_iff_exists.mp hmem
    exact (h voter ballot hget).1
  rw [← ExtTreeMap.length_keys, ← hvoted.length_eq, State.silent,
    ← List.length_eq_length_filter_add]

lemma State.count_le_size (st : State) : st.count .Approve ≤ st.ballots.size := by
  rw [State.count, ← ExtTreeMap.length_toList]
  exact List.countP_le_length

/-- The senders of the ballots are pairwise distinct. -/
lemma State.Polled.senders_nodup (h : st.Polled participants) :
    (st.ballots.toList.map (·.2.sender)).Nodup := by
  have hkeys : st.ballots.toList.map (·.2.sender) = st.ballots.keys := by
    rw [← ExtTreeMap.map_fst_toList_eq_keys]
    refine List.map_congr_left fun e he => ?_
    exact (h e.1 e.2 (ExtTreeMap.mem_toList_iff_getElem?_eq_some.mp he)).2
  rw [hkeys]
  exact ExtTreeMap.nodup_keys

end Ballots

/-! ### One message -/

section Messages

variable {s t t' : Session} {st : State}

lemma Accepts.took {types : List String} (h : Accepts d types t t') :
    ∃ env nowMs st outcome, env.messageType ∈ types ∧ (parts d).Took t env st outcome
      ∧ t' = (commit t env (outcome.response (parts d).encode) nowMs).1 := by
  obtain ⟨env, nowMs, state, synthesized, htype, hstep⟩ := h
  have haccepted : (step t env (parts d).mode nowMs).2 = .ok (.Accepted state synthesized) := by
    rw [hstep]
  obtain ⟨st, outcome, htook, -, hcommit, -⟩ := StateMode.step_accepted haccepted
  rw [hstep] at hcommit
  exact ⟨env, nowMs, st, outcome, htype, htook, hcommit⟩

/-- A message that is stored keeps the poll going. -/
lemma Poll.persist (h : Poll d s t st) {st' : State} (hst' : st'.Polled s.participants)
    (env : Envelope) (nowMs : Int64) :
    Poll d s (commit t env ((Outcome.persist st').response (parts d).encode) nowMs).1 st' :=
  ⟨StateMode.modeState_commit _ _ _ _, h.opened,
    (Session.applyModeResponse_bindings _ _).trans h.bound, hst'⟩

/-- The request leaves the ballots alone. -/
lemma Poll.request (h : Poll d s t st) (hrequest : Accepts d ["ApprovalRequest"] t t') :
    ∃ st', Poll d s t' st' := by
  obtain ⟨env, nowMs, st₁, outcome, htype, htook, rfl⟩ := hrequest.took
  obtain rfl := Option.some.inj (h.held.symm.trans htook.held)
  rw [List.mem_singleton] at htype
  rcases took_cases htook with ⟨-, request, rfl⟩ | hballot | ⟨hcommit, -⟩
  · have hpolled : State.Polled s.participants { st with request := some request } := h.polled
    exact ⟨_, h.persist hpolled env nowMs⟩
  · simp [ballotTypes, htype] at hballot
  · simp [htype] at hcommit

/-- **An accepted ballot is a declared participant's first.** -/
theorem Poll.ballot (h : Poll d s t st) (hballot : Accepts d ballotTypes t t') :
    ∃ ballot, st.ballots[ballot.sender]? = none ∧ Poll d s t' (st.cast ballot) := by
  obtain ⟨env, nowMs, st₁, outcome, htype, htook, rfl⟩ := hballot.took
  obtain rfl := Option.some.inj (h.held.symm.trans htook.held)
  obtain ⟨hmem, ballot, hsender, hfirst, rfl⟩ := took_ballot htook htype
  rw [h.participants] at hmem
  rw [← hsender] at hfirst hmem ⊢
  exact ⟨ballot, hfirst, h.persist (h.polled.cast hmem) env nowMs⟩

lemma exists_fresh_id (seen : ExtTreeSet String) :
    ∃ id : String, id ∉ seen ∧ id.isEmpty = false := by
  obtain ⟨id, hid⟩ := Infinite.exists_notMem_finset (insert "" seen.toList.toFinset)
  rw [Finset.mem_insert, not_or, List.mem_toFinset, ExtTreeSet.mem_toList] at hid
  exact ⟨id, hid.2, by simpa using hid.1⟩

variable {env : Envelope} {request : ApprovalRequestRecord}

/-- A message that is new, in time and addressed to an open session may proceed. -/
lemma checkPreconditions_of_open (hopen : t.state = .Open)
    (hshape : checkEnvelopeShape env = .ok ()) (hid : env.messageId ∉ t.seenMessageIds)
    (hmode : env.mode = t.mode) (hsession : env.sessionId = t.sessionId) :
    checkPreconditions t env t.ttlExpiry = .ok .Proceed := by
  have htime : t.deadlinePassed t.ttlExpiry = false := by
    rw [Session.deadlinePassed, hopen]
    simp
  have hnew : ¬ t.seenMessageIds.contains env.messageId = true := by simpa using hid
  rw [checkPreconditions, hshape]
  simp only [hnew, hmode, hsession, htime, hopen, if_false, ne_eq, not_true, or_self,
    Bool.false_eq_true]

lemma authorizeSender_approve (htype : env.messageType = "Approve")
    (hmem : env.sender ∈ t.participants) : authorizeSender d t env = .ok () := by
  rw [authorizeSender, htype, if_neg (by decide), if_neg (by decide), if_pos]
  simpa [isDeclaredParticipant] using hmem

lemma handle_approve {reason : String} (htype : env.messageType = "Approve")
    (hdecode : d.decodeApprove env.payload = some ⟨request.requestId, reason⟩)
    (hrequest : st.request = some request) (hfirst : st.ballots[env.sender]? = none) :
    handle d s env st
      = .ok (.persist (st.cast ⟨request.requestId, .Approve, env.sender, reason⟩)) := by
  have hcontains : st.ballots.contains env.sender = false := by
    rw [ExtTreeMap.contains_eq_isSome_getElem?, hfirst]
    rfl
  rw [handle, htype, if_neg (by decide), if_pos (by decide), handleBallot]
  simp only [hdecode, hrequest, hcontains, State.cast, ne_eq, not_true, Bool.false_eq_true,
    or_self, if_false]

/-- **A participant that has not voted can approve.** -/
theorem Poll.approve (h : Poll d s t st)
    (hencode : ∀ payload, ∃ bytes, d.decodeApprove bytes = some payload)
    (hrequest : st.request = some request) {voter : String} (hmem : voter ∈ s.participants)
    (hname : voter.isEmpty = false) (hfirst : st.ballots[voter]? = none) :
    ∃ t' ballot, ballot.sender = voter ∧ ballot.choice = .Approve ∧ Accepts d ballotTypes t t'
      ∧ Poll d s t' (st.cast ballot) := by
  obtain ⟨bytes, hbytes⟩ := hencode ⟨request.requestId, ""⟩
  obtain ⟨id, hid, hid_name⟩ := exists_fresh_id t.seenMessageIds
  let env : Envelope :=
    ⟨macpVersion, t.mode, "Approve", id, t.sessionId, voter, 0, bytes⟩
  have hpre : checkPreconditions t env t.ttlExpiry = .ok .Proceed :=
    checkPreconditions_of_open h.opened (by simp [checkEnvelopeShape, env, hid_name, hname]) hid
      rfl rfl
  have hmem' : env.sender ∈ t.participants := by
    rw [h.participants]
    exact hmem
  have hauth : authorizeSender d t env = .ok () := authorizeSender_approve rfl hmem'
  have hdecode : d.decodeApprove env.payload = some ⟨request.requestId, ""⟩ := hbytes
  have hhandle := handle_approve (s := t) rfl hdecode hrequest hfirst
  exact ⟨_, _, rfl, rfl,
    ⟨env, t.ttlExpiry, _, _, by simp [ballotTypes, env],
      StateMode.step_eq h.held hpre hauth rfl hhandle⟩,
    h.persist (h.polled.cast hmem) env t.ttlExpiry⟩

end Messages

/-! ### Sequences of ballots -/

section Casts

variable {s t t' : Session} {st : State}

/-- **What a sequence of ballots leaves**: the earlier ballots as they were, and at most one more
approval for each new one. -/
theorem Poll.casts (h : Poll d s t st) (hcasts : Casts d t t') :
    ∃ st', Poll d s t' st'
      ∧ (∀ (voter : String) (ballot : BallotRecord), st.ballots[voter]? = some ballot →
        st'.ballots[voter]? = some ballot)
      ∧ st'.count .Approve + st.ballots.size ≤ st.count .Approve + st'.ballots.size := by
  induction hcasts with
  | refl => exact ⟨st, h, fun _ _ hget => hget, le_rfl⟩
  | tail _ hcast ih =>
    obtain ⟨st₁, hpoll, hkept, hcount⟩ := ih
    obtain ⟨ballot, hfirst, hpoll'⟩ := hpoll.ballot hcast
    refine ⟨_, hpoll', fun voter old hget => State.ballots_cast hfirst (hkept voter old hget), ?_⟩
    rw [State.count_cast hfirst, State.size_cast hfirst]
    split_ifs <;> omega

/-- **Participants that have not voted can all approve.** -/
theorem Poll.approve_all (hencode : ∀ payload, ∃ bytes, d.decodeApprove bytes = some payload)
    {request : ApprovalRequestRecord} {voters : List String} (hnodup : voters.Nodup)
    (hmem : ∀ p ∈ voters, p ∈ s.participants ∧ p.isEmpty = false) (h : Poll d s t st)
    (hrequest : st.request = some request) (hsilent : ∀ p ∈ voters, st.ballots[p]? = none) :
    ∃ t' st', Casts d t t' ∧ Poll d s t' st'
      ∧ st'.count .Approve = st.count .Approve + voters.length := by
  induction voters generalizing t st with
  | nil => exact ⟨t, st, .refl, h, rfl⟩
  | cons voter voters ih =>
    rw [List.nodup_cons] at hnodup
    obtain ⟨hdeclared, hname⟩ := hmem voter List.mem_cons_self
    obtain ⟨t₁, ballot, hsender, hchoice, hcast, hpoll⟩ :=
      h.approve hencode hrequest hdeclared hname (hsilent voter List.mem_cons_self)
    have hfirst : st.ballots[ballot.sender]? = none := by
      rw [hsender]
      exact hsilent voter List.mem_cons_self
    obtain ⟨t', st', hcasts, hpoll', hcount⟩ := ih hnodup.2
      (fun p hp => hmem p (List.mem_cons_of_mem _ hp)) hpoll hrequest (fun p hp => by
        have hne : ballot.sender ≠ p := by
          rw [hsender]
          rintro rfl
          exact hnodup.1 hp
        rw [State.cast, ExtTreeMap.getElem?_insert,
          if_neg fun hkey => hne (Std.compare_eq_iff_eq.mp hkey)]
        exact hsilent p (List.mem_cons_of_mem _ hp))
    refine ⟨t', st', .head hcast hcasts, hpoll', ?_⟩
    rw [hcount, State.count_cast hfirst, if_pos hchoice, List.length_cons]
    omega

end Casts

/-! ### Readiness -/

lemma toNat_remaining (hlen : s.participants.length < UInt32.size)
    (hsize : st.ballots.size ≤ s.participants.length) :
    (remaining s st).toNat = s.participants.length - st.ballots.size := by
  have hle : UInt32.ofNat st.ballots.size ≤ UInt32.ofNat s.participants.length := by
    rw [UInt32.le_iff_toNat_le, UInt32.toNat_ofNat_of_lt' (by omega),
      UInt32.toNat_ofNat_of_lt' (by omega)]
    exact hsize
  rw [remaining, if_pos hle, UInt32.toNat_sub_of_le _ _ hle, UInt32.toNat_ofNat_of_lt' (by omega),
    UInt32.toNat_ofNat_of_lt' (by omega)]

/-- The readiness test, as numbers. -/
lemma commitmentReady_iff {request : ApprovalRequestRecord} {required : UInt32}
    (hlen : s.participants.length < UInt32.size) (hsize : st.ballots.size ≤ s.participants.length)
    (hrequest : st.request = some request)
    (hthreshold : effectiveThreshold d s request = .Approvals required) :
    commitmentReady d s st = true ↔ required.toNat ≤ st.count .Approve
      ∨ st.count .Approve + (s.participants.length - st.ballots.size) < required.toNat := by
  have hcount := st.count_le_size
  have happrovals : (UInt32.ofNat (st.count .Approve)).toNat = st.count .Approve :=
    UInt32.toNat_ofNat_of_lt' (by omega)
  have hsum : (UInt32.ofNat (st.count .Approve) + remaining s st).toNat
      = st.count .Approve + (s.participants.length - st.ballots.size) := by
    rw [UInt32.toNat_add, happrovals, toNat_remaining hlen hsize]
    exact Nat.mod_eq_of_lt (by change _ < UInt32.size; omega)
  simp only [commitmentReady, hrequest, hthreshold, Bool.or_eq_true, decide_eq_true_eq,
    UInt32.le_iff_toNat_le, UInt32.lt_iff_toNat_lt, happrovals, hsum]

/-- **Readiness is reachability.**  After the approval request of a session accepted under the
canonical contract, and after any accepted ballots, with the threshold the session reports: ballots
are cast by distinct declared participants and never change, and the session is ready for its
commitment exactly if the approvals reach the threshold or no sequence of further accepted ballots
makes them reach it. -/
theorem readiness_is_reachability {prost : Prost} {s r t : Session} {required : UInt32}
    (hencode : ∀ payload, ∃ bytes, d.decodeApprove bytes = some payload)
    (hbegun : CanonicalBegun prost (parts d).mode s)
    (hrequested : Accepts d ["ApprovalRequest"] s r) (hballots : Casts d r t)
    (hthreshold : effectiveThresholdForSession d t = .ok (some (.Approvals required))) :
    ∃ st, (parts d).held t = some st
      ∧ (∀ e ∈ st.ballots.toList, e.2.sender ∈ t.participants)
      ∧ (st.ballots.toList.map (·.2.sender)).Nodup
      ∧ (∀ t', Casts d t t' → ∃ st', (parts d).held t' = some st'
        ∧ ∀ (voter : String) (ballot : BallotRecord), st.ballots[voter]? = some ballot →
          st'.ballots[voter]? = some ballot)
      ∧ (commitmentReady d t st = true ↔ required.toNat ≤ st.count .Approve
        ∨ ¬ ∃ t' st', Casts d t t' ∧ (parts d).held t' = some st'
          ∧ required.toNat ≤ st'.count .Approve) := by
  obtain ⟨hlen, hnodup, hnames⟩ := hbegun.roster
  obtain ⟨st₀, hpoll₀⟩ := (Poll.begin hbegun.begun).request hrequested
  obtain ⟨st, hpoll, -, -⟩ := hpoll₀.casts hballots
  obtain ⟨st', request, hheld, hrequest, heffective⟩ :=
    effectiveThresholdForSession_eq_ok hthreshold
  obtain rfl := Option.some.inj (hpoll.held.symm.trans hheld)
  have hpart := hpoll.participants
  have hsilent := hpoll.polled.size_add_silent hnodup
  have hbound : maxParticipants < UInt32.size := by decide
  refine ⟨st, hpoll.held, fun e he => ?_, hpoll.polled.senders_nodup, fun t' hcasts => ?_, ?_⟩
  · obtain ⟨hmem, hsender⟩ := hpoll.polled e.1 e.2
      (ExtTreeMap.mem_toList_iff_getElem?_eq_some.mp he)
    rwa [hsender, hpart]
  · obtain ⟨st', hpoll', hkept, -⟩ := hpoll.casts hcasts
    exact ⟨st', hpoll'.held, hkept⟩
  · rw [commitmentReady_iff (by rw [hpart]; omega) (by rw [hpart]; omega) hrequest heffective,
      hpart]
    refine or_congr_right ⟨fun hlost => ?_, fun hunreachable => ?_⟩
    · -- every further ballot uses up one participant that has not voted
      rintro ⟨t', st', hcasts, hheld', hreached⟩
      obtain ⟨st₁, hpoll₁, -, hcount⟩ := hpoll.casts hcasts
      obtain rfl := Option.some.inj (hpoll₁.held.symm.trans hheld')
      have hsize := hpoll₁.polled.size_add_silent hnodup
      omega
    · by_contra hopen
      refine hunreachable ?_
      obtain ⟨t', st', hcasts, hpoll', hcount⟩ := hpoll.approve_all hencode
        (hnodup.filter fun p => !st.ballots.contains p)
        (fun p hp => ⟨List.mem_of_mem_filter hp, hnames p (List.mem_of_mem_filter hp)⟩) hrequest
        (fun p hp => ExtTreeMap.getElem?_eq_none_of_contains_eq_false
          (by simpa using (List.mem_filter.mp hp).2))
      refine ⟨t', st', hcasts, hpoll'.held, ?_⟩
      change st'.count .Approve = st.count .Approve + (st.silent s.participants).length at hcount
      omega

/-! ### A sample poll -/

open Protobuf in
lemma decodeApprove_write (p : BallotPayload) :
    deps.decodeApprove (writeFields (textField 1 p.requestId ++ textField 2 p.reason))
      = some p := by
  have hfields : ∀ f ∈ textField 1 p.requestId ++ textField 2 p.reason, Writable false f := by
    intro f hf
    rcases List.mem_append.mp hf with hf | hf
    · exact textField_writable (by norm_num) (by norm_num) f hf
    · exact textField_writable (by norm_num) (by norm_num) f hf
  change mergeFields 2 mergeBallot ⟨"", ""⟩ _ = _
  rw [mergeFields, decodeMessage_writeFields hfields, List.foldlM_append, Option.bind_eq_bind,
    foldlM_textField (by exact fun _ => rfl) (by rfl), Option.bind_some,
    foldlM_textField (by exact fun _ => rfl) (by rfl)]

/-- Two approvals are requested and one participant rejects: the session is not ready, and the other
two can still approve. -/
theorem readiness_is_reachability_sample :
    commitmentReady deps rejectedOnce (sampleState 2 [("b", .Reject)]) = false
      ∧ ∃ t' st', Casts deps rejectedOnce t' ∧ (parts deps).held t' = some st'
        ∧ (2 : UInt32).toNat ≤ st'.count .Approve := by
  have hcast : Casts deps (requested 2) rejectedOnce :=
    .single ⟨sampleBallot "Reject" "m2" "b", 11, _, _, by decide, step_rejected⟩
  obtain ⟨st, hst, -, -, -, hready⟩ := readiness_is_reachability
    (fun payload => ⟨_, decodeApprove_write payload⟩) (.accepted sampleStart_accepted rfl)
    ⟨sampleRequest 2, 10, _, _, by decide, step_request 2 (.inr rfl)⟩ hcast
    (threshold_of_sample (StateMode.modeState_after (requested 2) _ _ _) rfl)
  have hheld : (parts deps).held rejectedOnce = some (sampleState 2 [("b", .Reject)]) :=
    StateMode.held_after (parts_decode_encode _ _)
  obtain rfl := Option.some.inj (hheld.symm.trans hst)
  have hnot : commitmentReady deps rejectedOnce (sampleState 2 [("b", .Reject)]) = false := by
    decide +kernel
  rw [hnot] at hready
  refine ⟨hnot, ?_⟩
  by_contra hunreachable
  cases hready.mpr (.inr hunreachable)

/-! ### A name declared twice -/

/-- A start that declares `a`, `b` and `b` again. -/
def laxStart : Envelope :=
  sampleMessage "macp.mode.quorum.v1" "SessionStart" "m0" "a"
    [0x12, 1, 97, 0x12, 1, 98, 0x12, 1, 98, 0x1A, 1, 49, 0x22, 1, 49, 0x30, 0xE8, 7]

/-- A session with a participant named twice. -/
def laxSession : Session := { sampleSession with participants := ["a", "b", "b"] }

lemma laxStart_accepted :
    acceptSessionStart protobuf laxStart 5 (parts deps).mode none { strict := some false }
      = .ok laxSession := by
  rfl

/-- The session with its request. -/
def laxRequested : Session :=
  (parts deps).after laxSession (sampleRequest 3) (sampleState 3 []) 10

/-- **A name declared twice keeps a session from ever being ready**: it was accepted outside of the
canonical contract and is asked for three approvals, which its two participants can never give; and
yet the session does not become ready. -/
theorem repeated_name_never_ready :
    acceptSessionStart protobuf laxStart 5 (parts deps).mode none { strict := some false }
        = .ok laxSession
      ∧ Accepts deps ["ApprovalRequest"] laxSession laxRequested
      ∧ effectiveThresholdForSession deps laxRequested = .ok (some (.Approvals 3))
      ∧ (parts deps).held laxRequested = some (sampleState 3 [])
      ∧ commitmentReady deps laxRequested (sampleState 3 []) = false
      ∧ ¬ ∃ t' st', Casts deps laxRequested t' ∧ (parts deps).held t' = some st'
        ∧ (3 : UInt32).toNat ≤ st'.count .Approve := by
  have hbegun : SessionBegun deps.prost (parts deps).mode laxSession := .accepted laxStart_accepted
  have hstep : step laxSession (sampleRequest 3) (parts deps).mode 10
      = (laxRequested, .ok (.Accepted .Open [])) :=
    StateMode.step_eq (held_of_begun hbegun) rfl rfl rfl rfl
  have hrequest : Accepts deps ["ApprovalRequest"] laxSession laxRequested :=
    ⟨sampleRequest 3, 10, _, _, by decide, hstep⟩
  refine ⟨laxStart_accepted, hrequest,
    threshold_of_sample (StateMode.modeState_after laxSession _ _ _) rfl,
    StateMode.held_after (parts_decode_encode _ _), by decide +kernel, ?_⟩
  rintro ⟨t', st', hcasts, hst', hreached⟩
  obtain ⟨st₀, hpoll₀⟩ := (Poll.begin hbegun).request hrequest
  obtain ⟨st₁, hpoll, -, -⟩ := hpoll₀.casts hcasts
  obtain rfl := Option.some.inj (hpoll.held.symm.trans hst')
  have hcount : st₁.count .Approve ≤ ({"a", "b"} : Finset String).card := by
    refine countP_toList_le_card fun voter ballot hget _ => ?_
    have hmem : voter ∈ ["a", "b", "b"] := (hpoll.polled voter ballot hget).1
    simpa using hmem
  exact absurd (hreached.trans hcount) (by decide)

end MacpRuntime.Quorum
