import MacpRuntime.Server.Neutrality

/-!
Replays under registries that are edited (`src/replay.rs`, `recorded_start`, `replay_from_start`): a
full replay resolves the mode, its contract and the policy in the live registries, while a
checkpoint holds the policy itself.

* `Pinned`: what a session and its log name in the registries; a log replays the same under
  registries that agree on it (`Pinned.replaySession_eq`);
* `replay_ignores_edits`: **a session of a standards-track mode replays the same under any later
  registries, if its policy id is reserved or its log holds a checkpoint**;
* `edited_policy_replaces_the_bound_one`: a policy that was registered anew under its id.
-/

namespace MacpRuntime

/-! ### Edits between the calls -/

/-- The runtime a sequence of edits leaves. -/
def Runtime.edits (rt : Runtime) (calls : List RegistryEdit) : Runtime :=
  { rt with registries := rt.registries.edits rt.prost calls }

/-- A runtime with the world of one session id. -/
structure Service where
  runtime : Runtime
  world : World

/-- A call on the session id, or an edit of the registries. -/
inductive ServiceCall where
  | server (op : ServerOp)
  | edit (call : RegistryEdit)

/-- The service after a call. -/
def ServiceCall.apply (sessionId : String) (v : Service) : ServiceCall → Service
  | .server op => { v with world := op.apply v.runtime sessionId v.world }
  | .edit call => { v with runtime := v.runtime.edits [call] }

/-- The service a run of calls leaves. -/
def serviceRun (sessionId : String) (v : Service) (calls : List ServiceCall) : Service :=
  calls.foldl (ServiceCall.apply sessionId) v

/-- A stored session is read back in its mode, with a policy if it had one. -/
def SessionSerde.KeepsPolicy (serde : SessionSerde) : Prop :=
  ∀ p bytes p', (∀ d ∈ p.policyDefinition, d.rules.Literal) → serde.encode p = some bytes →
    serde.decode bytes = some p' →
      p'.mode = p.mode ∧ p'.policyDefinition.isSome = p.policyDefinition.isSome

lemma jsonSessionOf_keepsPolicy (t : FloatText) : (jsonSessionOf t).KeepsPolicy := by
  intro p bytes p' hliteral hencode hdecode
  obtain ⟨policy, rfl, hsome, _⟩ := jsonSessionOf_decode_eq_some hliteral hencode hdecode
  exact ⟨rfl, hsome⟩

/-! ### What a log names -/

/-- The start entry of a session: it names the session's mode, and a policy that the registry
holds if the session is bound to a reserved id. -/
structure NamesStart (rt : Runtime) (s : Session) (entry : LogEntry) : Prop where
  isStart : entry.isStart = true
  mode : entry.mode = s.mode
  policy : reservedPolicyId s.policyVersion = true →
    reservedPolicyId (effectivePolicyId rt.prost entry) = true
      ∧ ∃ d, rt.registries.policies.get (effectivePolicyId rt.prost entry) = some d

/-- What a session and its log name. -/
structure Pinned (rt : Runtime) (p : Session × List LogEntry) : Prop where
  policy : p.1.policyDefinition.isSome = true
  head : ∃ first, p.2.head? = some first
    ∧ (first.entryKind = .Checkpoint ∨ NamesStart rt p.1 first)
  checkpoints : (∀ d ∈ p.1.policyDefinition, d.rules.Literal) →
    ∀ entry ∈ p.2, entry.entryKind = .Checkpoint →
      ∀ q, rt.serde.decode entry.rawPayload = some q →
        q.mode = p.1.mode ∧ q.policyDefinition.isSome = true

section Pinned

variable {rt : Runtime} {sessionId : String} {clocks : Set Int64}

/-- A reserved id names a policy of its own, not the default one. -/
lemma PolicyRegistry.resolve_of_reserved {policies : PolicyRegistry} {policyId : String}
    (h : reservedPolicyId policyId = true) : policies.resolve policyId = policies.get policyId := by
  rw [resolve, if_neg]
  intro hempty
  rw [String.isEmpty_iff] at hempty
  subst hempty
  cases h

variable {entry : LogEntry} {s : Session} {log : List LogEntry} {p : Session × List LogEntry}

/-- A started session names its mode and its policy. -/
lemma Started.names (h : Started rt sessionId s entry) : NamesStart rt s entry := by
  obtain ⟨hstart, _, _, _, _, d, _, hresolve⟩ := h.binds
  obtain ⟨env, acceptedAt, v, mode, _, _, hv, hacc, rfl⟩ := h.exists_start
  obtain ⟨policy, _, hs⟩ := acceptStart_eq_ok hv hacc
  obtain ⟨_, _, hname, _⟩ := accept_copies hs
  obtain ⟨version, response, hversion, _, _, hs'⟩ := ValidatedStart.accept_eq_ok hs
  have hbind := Session.applyModeResponse_bindings { v.bind env version (some policy) with
    seenMessageIds := (∅ : Std.ExtTreeSet String).insert env.messageId } response
  have hpv : s.policyVersion = version := by
    rw [hs']
    exact congrArg (·.policyVersion) hbind
  refine ⟨hstart, hname.symm, fun hreserved => ?_⟩
  have hid : reservedPolicyId (effectivePolicyId rt.prost (startEntry env acceptedAt v s))
      = true := by
    rw [effectivePolicyId_startEntry hv]
    split_ifs with hempty
    · rfl
    · rw [hpv, ValidatedStart.policyVersion_eq_ok hversion, if_neg hempty] at hreserved
      exact hreserved
  rw [PolicyRegistry.resolve_of_reserved hid] at hresolve
  exact ⟨hid, d, hresolve⟩

lemma NamesStart.of_bindings {s' : Session} (h : NamesStart rt s entry)
    (hbind : s'.bindings = s.bindings) : NamesStart rt s' entry where
  isStart := h.isStart
  mode := h.mode.trans (congrArg (·.mode) hbind).symm
  policy hreserved := h.policy ((congrArg (fun b : Session.Bindings =>
    reservedPolicyId b.policyVersion) hbind).symm.trans hreserved)

/-- An entry that is no checkpoint of another session keeps what is named. -/
lemma Pinned.concat {s' : Session} (h : Pinned rt (s, log))
    (hbind : s'.bindings = s.bindings)
    (hentry : (∀ d ∈ s.policyDefinition, d.rules.Literal) → entry.entryKind = .Checkpoint →
      ∀ q, rt.serde.decode entry.rawPayload = some q →
        q.mode = s.mode ∧ q.policyDefinition.isSome = true) :
    Pinned rt (s', log ++ [entry]) where
  policy := (congrArg (fun b : Session.Bindings => b.policyDefinition.isSome) hbind).trans h.policy
  head := by
    obtain ⟨first, hfirst, hkind⟩ := h.head
    have hlog : log.head? = some first := hfirst
    have hlog' : (log ++ [entry]).head? = some first := by
      rw [List.head?_append, hlog]
      rfl
    exact ⟨first, hlog', hkind.imp_right fun hnames => hnames.of_bindings hbind⟩
  checkpoints hliteral e he hcheck q hq := by
    have hpolicy : s'.policyDefinition = s.policyDefinition :=
      congrArg (·.policyDefinition) hbind
    have hmode : s'.mode = s.mode := congrArg (·.mode) hbind
    have hliteral' : ∀ d ∈ s.policyDefinition, d.rules.Literal := by
      rw [← hpolicy]
      exact hliteral
    rw [hmode]
    rcases List.mem_append.mp he with hold | hnew
    · exact h.checkpoints hliteral' e hold hcheck q hq
    · rw [List.mem_singleton] at hnew
      subst hnew
      exact hentry hliteral' hcheck q hq

/-- **Every run names its registries.** -/
theorem pinned_maintained (hserde : rt.serde.KeepsPolicy) :
    rt.Maintains sessionId clocks (Pinned rt) where
  start s entry hstarted := by
    obtain ⟨hstart, _, _, _, _, d, hbound, _⟩ := hstarted.binds
    refine ⟨by rw [hbound]; rfl, ⟨entry, rfl, .inr hstarted.names⟩, fun _ e he hcheck => ?_⟩
    rw [List.mem_singleton] at he
    subst he
    rw [LogEntry.isStart, hcheck] at hstart
    cases hstart
  write p p' hwrite h := by
    obtain ⟨s, log⟩ := p
    obtain ⟨s', log'⟩ := p'
    obtain ⟨entry, hkind, hlog, hbind⟩ | ⟨raw, nowMs, discarded, hraw, hsame, hlog⟩ := hwrite.shape
    · dsimp only at hlog hbind
      subst hlog
      exact h.concat hbind fun _ hcheck => absurd hcheck hkind
    · dsimp only at hraw hsame hlog
      subst hsame
      have hentry : (∀ d ∈ s'.policyDefinition, d.rules.Literal) → ∀ q,
          rt.serde.decode (checkpointEntry s' sessionId raw nowMs discarded).rawPayload = some q →
            q.mode = s'.mode ∧ q.policyDefinition.isSome = true := by
        intro hliteral q hq
        obtain ⟨hmode, hpolicy⟩ := hserde _ _ _ hliteral hraw hq
        exact ⟨hmode, hpolicy.trans h.policy⟩
      obtain hlog | hlog := hlog
      · subst hlog
        exact h.concat rfl fun hliteral _ => hentry hliteral
      · subst hlog
        refine ⟨h.policy, ⟨_, rfl, .inl rfl⟩, fun hliteral e he _ => ?_⟩
        rw [List.mem_singleton.mp he]
        exact hentry hliteral

/-- An edit keeps what is named. -/
lemma Pinned.edit (h : Pinned rt p) (call : RegistryEdit) : Pinned (rt.edits [call]) p where
  policy := h.policy
  head := by
    obtain ⟨first, hfirst, hkind⟩ := h.head
    refine ⟨first, hfirst, hkind.imp_right fun hnames => ⟨hnames.isStart, hnames.mode, ?_⟩⟩
    intro hreserved
    obtain ⟨hid, d, hd⟩ := hnames.policy hreserved
    exact ⟨hid, d, Registries.edit_reserved hd hid call⟩
  checkpoints := h.checkpoints

/-- **So does every run with edits between its calls.** -/
theorem pinned_serviceRun (hserde : rt.serde.KeepsPolicy) {clock wallClock : Stream' Int64}
    {writes : Stream' Bool} {calls : List ServiceCall}
    (hs : (serviceRun sessionId ⟨rt, .initial clock wallClock writes⟩ calls).world.session
      = some s) :
    Pinned (serviceRun sessionId ⟨rt, .initial clock wallClock writes⟩ calls).runtime
      (s, (serviceRun sessionId ⟨rt, .initial clock wallClock writes⟩ calls).world.io.log) := by
  have hrun : ∀ (calls : List ServiceCall) (v : Service), v.runtime.serde.KeepsPolicy →
      v.world.Holds (Pinned v.runtime) →
      (serviceRun sessionId v calls).world.Holds
        (Pinned (serviceRun sessionId v calls).runtime) := by
    intro calls
    induction calls with
    | nil => exact fun _ _ hv => hv
    | cons call calls ih =>
      intro v hserde hv
      cases call with
      | server op =>
        refine ih _ hserde ?_
        exact (op.apply_holds (pinned_maintained hserde) hv fun _ => Set.mem_univ _).1
      | edit call =>
        refine ih _ hserde ?_
        revert hv
        simp only [ServiceCall.apply, World.Holds]
        cases v.world.session with
        | none => exact id
        | some s => exact fun hpinned => hpinned.edit call
  have hinitial : World.Holds (Pinned rt) (.initial clock wallClock writes) := rfl
  exact (hrun calls _ hserde hinitial).session hs

/-! ### Replays -/

/-- What a checkpoint restores under a log that names its mode. -/
lemma Pinned.checkpointBase_eq (h : Pinned rt p)
    (hliteral : ∀ d ∈ p.1.policyDefinition, d.rules.Literal) {modes modes' : ModeRegistry}
    (hmode : modes.getMode p.1.mode = modes'.getMode p.1.mode) :
    checkpointBase rt.serde modes sessionId p.2 = checkpointBase rt.serde modes' sessionId p.2
      ∧ ((∃ entry ∈ p.2, entry.entryKind = .Checkpoint) →
        checkpointBase rt.serde modes sessionId p.2 ≠ .ok none) := by
  rw [checkpointBase, checkpointBase]
  cases hlast : lastCheckpoint p.2 with
  | none =>
    refine ⟨rfl, ?_⟩
    rintro ⟨entry, hmem, hcheck⟩
    exact absurd hcheck (lastCheckpoint_eq_none hlast entry hmem)
  | some found =>
    obtain ⟨checkpoint, rest⟩ := found
    obtain ⟨hmem, hcheck⟩ := lastCheckpoint_mem hlast
    dsimp only
    cases hrestore : restore rt.serde sessionId checkpoint with
    | error e => exact ⟨rfl, fun _ h => by cases h⟩
    | ok restored =>
      rw [restore] at hrestore
      split at hrestore
      · cases hrestore
      · rename_i q hq
        obtain ⟨hname, hheld⟩ := h.checkpoints hliteral _ hmem hcheck q hq
        have hheld' : q.toSession.policyDefinition.isNone = false := by
          rw [Option.isNone_eq_false_iff]
          exact hheld
        dsimp only at hrestore
        rw [hheld', Bool.and_false, if_neg (by decide)] at hrestore
        cases hrestore
        have hinst : modes.instantiate q.toSession.mode
            = modes'.instantiate q.toSession.mode := by
          rw [ModeRegistry.instantiate, ModeRegistry.instantiate,
            show q.toSession.mode = p.1.mode from hname, hmode]
        dsimp only
        rw [hinst]
        refine ⟨rfl, fun _ h => ?_⟩
        cases hinst' : modes'.instantiate q.toSession.mode with
        | error e =>
          rw [hinst'] at h
          cases h
        | ok mode =>
          rw [hinst'] at h
          cases h

/-- A full replay begins the same under registries that agree on the mode and the policy of its
start. -/
lemma startBase_eq {prost : Prost} {first : LogEntry}
    (hfind : log.find? (·.isStart) = some first) {r r' : Registries}
    (hmode : r.modes.getMode first.mode = r'.modes.getMode first.mode)
    (hpolicy : r.policies.resolve (effectivePolicyId prost first)
      = r'.policies.resolve (effectivePolicyId prost first)) :
    startBase prost r.modes (some r.policies) sessionId log
      = startBase prost r'.modes (some r'.policies) sessionId log := by
  have hinst : r.modes.instantiate first.mode = r'.modes.instantiate first.mode := by
    rw [ModeRegistry.instantiate, ModeRegistry.instantiate, hmode]
  have hrecord : startRecord r.modes sessionId first = startRecord r'.modes sessionId first := by
    rw [startRecord, startRecord, ModeRegistry.requiresStrictSessionStart,
      ModeRegistry.requiresStrictSessionStart, hmode]
  rw [startBase, startBase, recordedStart, recordedStart, hfind]
  dsimp only
  rw [hinst, hrecord]
  split_ifs
  · rfl
  · cases r'.modes.instantiate first.mode with
    | error e => rfl
    | ok mode =>
      dsimp only [Option.bind_some]
      rw [hpolicy]

/-- **A log replays the same under registries that agree on what it names.** -/
theorem Pinned.replaySession_eq (h : Pinned rt p)
    (hliteral : ∀ d ∈ p.1.policyDefinition, d.rules.Literal) {r r' : Registries}
    (hmode : r.modes.getMode p.1.mode = r'.modes.getMode p.1.mode)
    (hpolicy : (∀ entry, NamesStart rt p.1 entry →
        r.policies.resolve (effectivePolicyId rt.prost entry)
          = r'.policies.resolve (effectivePolicyId rt.prost entry))
      ∨ ∃ entry ∈ p.2, entry.entryKind = .Checkpoint) :
    replaySession rt.prost rt.serde r.modes (some r.policies) sessionId p.2
      = replaySession rt.prost rt.serde r'.modes (some r'.policies) sessionId p.2 := by
  obtain ⟨hbase, hused⟩ := @Pinned.checkpointBase_eq rt sessionId p h hliteral _ _ hmode
  rw [replaySession_eq_finish, replaySession_eq_finish, replayBase, replayBase, ← hbase]
  cases hcheck : checkpointBase rt.serde r.modes sessionId p.2 with
  | error e => rfl
  | ok base =>
    cases base with
    | some base => rfl
    | none =>
      obtain ⟨first, hfirst, hkind⟩ := h.head
      obtain ⟨rest, hlog⟩ := List.head?_eq_some_iff.mp hfirst
      have hunused : ¬ ∃ entry ∈ p.2, entry.entryKind = .Checkpoint :=
        fun hheld => hused hheld hcheck
      have hnames : NamesStart rt p.1 first := by
        refine hkind.resolve_left fun hfirst => hunused ⟨first, ?_, hfirst⟩
        rw [hlog]
        exact List.mem_cons_self
      have hfind : p.2.find? (·.isStart) = some first := by
        rw [hlog, List.find?_cons, hnames.isStart]
      have hmode' : r.modes.getMode first.mode = r'.modes.getMode first.mode := by
        rw [hnames.mode, hmode]
      dsimp only
      rw [startBase_eq hfind hmode' (hpolicy.resolve_right hunused first hnames)]

/-- **Later edits of the registries change no replay** of a session of a standards-track mode whose
policy id is reserved or whose log holds a checkpoint. -/
theorem replay_ignores_edits (hserde : rt.serde.KeepsPolicy) {clock wallClock : Stream' Int64}
    {writes : Stream' Bool} (calls : List ServiceCall) {v : Service} {s : Session}
    (hv : serviceRun sessionId ⟨rt, .initial clock wallClock writes⟩ calls = v)
    (hs : v.world.session = some s) (hliteral : ∀ d ∈ s.policyDefinition, d.rules.Literal)
    {registration : ModeRegistration}
    (hmode : v.runtime.registries.modes.getMode s.mode = some registration)
    (hstd : registration.standardsTrack = true)
    (hpolicy : reservedPolicyId s.policyVersion = true
      ∨ ∃ entry ∈ v.world.io.log, entry.entryKind = .Checkpoint)
    (edits edits' : List RegistryEdit) :
    (v.runtime.edits edits).replayLog sessionId v.world.io.log
      = (v.runtime.edits edits').replayLog sessionId v.world.io.log := by
  subst hv
  have hpinned := pinned_serviceRun hserde hs
  refine hpinned.replaySession_eq hliteral ?_ (hpolicy.imp_left fun hreserved entry hnames => ?_)
  · exact (Registries.edits_standardsTrack hmode hstd edits).trans
      (Registries.edits_standardsTrack hmode hstd edits').symm
  · obtain ⟨hid, d, hd⟩ := hnames.policy hreserved
    rw [PolicyRegistry.resolve_of_reserved hid, PolicyRegistry.resolve_of_reserved hid]
    exact (Registries.edits_reserved hd hid edits).trans
      (Registries.edits_reserved hd hid edits').symm

end Pinned

/-! ### Samples -/

section Sample

open Handoff

/-- A policy of the same id under which an offer stays open twice as long. -/
def slowPolicy : PolicyDefinition :=
  { samplePolicy with
    rules := .object
      [("acceptance", .object [("implicit_accept_timeout_ms", .number (.posInt 200))])] }

/-- The sample runtime with a codec that prints and parses the floats of the policies. -/
def editedRuntime : Runtime := { sampleRuntime with serde := jsonSessionOf shortestDecimal }

/-- Its service after a start and a cancellation. -/
def cancelledService : Service :=
  serviceRun sampleId ⟨editedRuntime, .initial (.const 5) (.const 0) (.const true)⟩
    [.server (.process (sampleStart []) none 0), .server (.cancelSession "" "a")]

/-- The policy is registered anew. -/
def reregistered : List RegistryEdit := [.unregisterPolicy "p", .registerPolicy slowPolicy]

lemma cancelledService_checkpointed :
    ∃ s, cancelledService.world.session = some s ∧ s.policyDefinition = some samplePolicy
      ∧ cancelledService.world.io.log.any (·.entryKind == .Checkpoint) = true
      ∧ cancelledService.runtime.registries.modes.getMode s.mode = some handoffRegistration :=
  ⟨_, rfl, rfl, rfl, rfl⟩

/-- A session with a checkpoint replays the same after its policy was registered anew. -/
theorem replay_ignores_edits_checkpointed :
    ∃ s, cancelledService.world.session = some s ∧ s.policyDefinition = some samplePolicy
      ∧ (cancelledService.runtime.edits reregistered).registries.policies.get "p"
        = some slowPolicy
      ∧ (cancelledService.runtime.edits []).replayLog sampleId cancelledService.world.io.log
        = (cancelledService.runtime.edits reregistered).replayLog sampleId
            cancelledService.world.io.log := by
  obtain ⟨s, hs, hpolicy, hcheckpoint, hmode⟩ := cancelledService_checkpointed
  have hliteral : ∀ d ∈ s.policyDefinition, d.rules.Literal := by
    rw [hpolicy]
    rintro d ⟨⟩
    exact ⟨trivial, ⟨trivial, trivial, trivial⟩, trivial⟩
  obtain ⟨entry, hentry, hkind⟩ := List.any_eq_true.mp hcheckpoint
  exact ⟨s, hs, hpolicy, rfl, replay_ignores_edits (jsonSessionOf_keepsPolicy _) _ rfl hs hliteral
    hmode rfl (.inr ⟨entry, hentry, beq_iff_eq.mp hkind⟩) _ _⟩

lemma replayed_under_slowPolicy :
    ∃ v s r, serviceRun sampleId ⟨sampleRuntime, .initial (.const 5) (.const 0) (.const true)⟩
        [.server (.process (sampleStart []) none 0)] = v
      ∧ v.world.session = some s
      ∧ (v.runtime.edits []).replayLog sampleId v.world.io.log = .ok s
      ∧ (v.runtime.edits [.unregisterPolicy "p", .registerPolicy slowPolicy]).replayLog sampleId
          v.world.io.log = .ok r
      ∧ s.policyDefinition = some samplePolicy ∧ r.policyDefinition = some slowPolicy :=
  ⟨_, _, _, rfl, rfl, rfl, rfl, rfl, rfl⟩

/-- A policy that was unregistered and registered anew takes the place of the bound one. -/
theorem edited_policy_replaces_the_bound_one :
    ∃ v s r, serviceRun sampleId ⟨sampleRuntime, .initial (.const 5) (.const 0) (.const true)⟩
        [.server (.process (sampleStart []) none 0)] = v
      ∧ v.world.session = some s
      ∧ (v.runtime.edits []).replayLog sampleId v.world.io.log = .ok s
      ∧ (v.runtime.edits [.unregisterPolicy "p", .registerPolicy slowPolicy]).replayLog sampleId
          v.world.io.log = .ok r
      ∧ s.policyDefinition = some samplePolicy ∧ r.policyDefinition = some slowPolicy ∧ r ≠ s := by
  obtain ⟨v, s, r, hv, hs, hreplay, hedited, hbound, hslow⟩ := replayed_under_slowPolicy
  refine ⟨v, s, r, hv, hs, hreplay, hedited, hbound, hslow, ?_⟩
  rintro rfl
  have hpolicy := Option.some.inj (hbound.symm.trans hslow)
  simp [slowPolicy, samplePolicy] at hpolicy

end Sample

end MacpRuntime
