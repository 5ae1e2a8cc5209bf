import MacpRuntime.Modes.Readable
import MacpRuntime.Server.Consistency

/-!
Checkpoints are neutral: a log replays to the same session with more of them.

* `Anchored`: a log that begins with a start or a checkpoint, and whose checkpoints restore sessions
  that can be stored again; every log the runtime writes is one;
* `checkpoint_neutrality`: **an anchored log into which checkpoints of what the entries before them
  replay to are put replays to the same result.**  The rules of the bound policy must be read back
  from a checkpoint: `checkpoint_moves_a_float`.
-/

namespace MacpRuntime

open Std

/-! ### Anchored logs -/

/-- A log that begins with a start or a checkpoint, and whose checkpoints restore sessions that
can be stored again. -/
structure Anchored (serde : SessionSerde) (sessionId : String) (log : List LogEntry) : Prop where
  head : ∃ first, log.head? = some first
    ∧ (first.isStart = true ∨ first.entryKind = .Checkpoint)
  checkpoints : ∀ entry ∈ log, entry.entryKind = .Checkpoint →
    ∃ s : Session, s.Restorable serde sessionId
      ∧ restore serde sessionId entry = .ok (some s.forgetActivity)

section Anchored

variable {serde : SessionSerde} {sessionId : String} {log : List LogEntry}
  {entry : LogEntry} {mode : Mode}

lemma Anchored.concat (h : Anchored serde sessionId log)
    (hentry : entry.entryKind = .Checkpoint → ∃ s : Session, s.Restorable serde sessionId
      ∧ restore serde sessionId entry = .ok (some s.forgetActivity)) :
    Anchored serde sessionId (log ++ [entry]) where
  head := by
    obtain ⟨first, hfirst, hkind⟩ := h.head
    refine ⟨first, ?_, hkind⟩
    rw [List.head?_append, hfirst]
    rfl
  checkpoints e he hcheck := by
    rcases List.mem_append.mp he with hold | hnew
    · exact h.checkpoints e hold hcheck
    · rw [List.mem_singleton] at hnew
      subst hnew
      exact hentry hcheck

lemma Anchored.start (h : entry.isStart = true) : Anchored serde sessionId [entry] := by
  refine ⟨⟨entry, rfl, .inl h⟩, fun e he hcheck => ?_⟩
  rw [List.mem_singleton] at he
  subst he
  rw [LogEntry.isStart, hcheck] at h
  cases h

lemma Anchored.checkpoint {checkpoint : LogEntry} {s : Session}
    (hkind : checkpoint.entryKind = .Checkpoint) (hs : s.Restorable serde sessionId)
    (hrestore : restore serde sessionId checkpoint = .ok (some s.forgetActivity)) :
    Anchored serde sessionId [checkpoint] := by
  refine ⟨⟨checkpoint, rfl, .inr hkind⟩, fun e he _ => ?_⟩
  rw [List.mem_singleton] at he
  subst he
  exact ⟨s, hs, hrestore⟩

/-- A session whose policy is read back can be stored, and its log is anchored. -/
def Storing (serde : SessionSerde) (sessionId : String) (p : Session × List LogEntry) : Prop :=
  (∀ policy ∈ p.1.policyDefinition, serde.Exact policy.rules) →
    p.1.Restorable serde sessionId ∧ Anchored serde sessionId p.2

/-- **Every log the runtime writes is anchored.** -/
theorem storing_maintained (rt : Runtime) (sessionId : String) (clocks : Set Int64) :
    rt.Maintains sessionId clocks (Storing rt.serde sessionId) where
  start s entry hstarted hexact := by
    obtain ⟨hstart, hid, hpos, _, _, policy, hbound, _⟩ := hstarted.binds
    exact ⟨⟨hid, hpos, policy, hbound, hexact policy hbound⟩, .start hstart⟩
  write p p' hwrite h hexact := by
    obtain ⟨entry, hkind, hlog, hbind⟩ | ⟨raw, nowMs, discarded, hraw, hsame, hlog⟩ := hwrite.shape
    · have hpolicy := congrArg (·.policyDefinition) hbind
      obtain ⟨hs, hanchored⟩ := h fun policy hmem => hexact policy (hpolicy.trans hmem)
      rw [hlog]
      exact ⟨hs.of_bindings hbind, hanchored.concat fun hcheck => absurd hcheck hkind⟩
    · rw [hsame] at hexact ⊢
      obtain ⟨hs, hanchored⟩ := h hexact
      have hrestore : restore rt.serde sessionId
            (checkpointEntry p.1 sessionId raw nowMs discarded)
          = .ok (some p.1.forgetActivity) := hs.restore hraw
      refine ⟨hs, ?_⟩
      obtain hlog | hlog := hlog
      · rw [hlog]
        exact hanchored.concat fun _ => ⟨_, hs, hrestore⟩
      · rw [hlog]
        exact .checkpoint rfl hs hrestore

lemma lastCheckpoint_eq_none (h : lastCheckpoint log = none) :
    ∀ entry ∈ log, entry.entryKind ≠ .Checkpoint := by
  induction log with
  | nil => exact fun _ hmem => absurd hmem List.not_mem_nil
  | cons entry rest ih =>
    rw [lastCheckpoint] at h
    split at h
    · cases h
    · rename_i hrest
      split_ifs at h with hkind
      intro e he
      rcases List.mem_cons.mp he with rfl | he
      · exact hkind
      · exact ih hrest e he

variable {registry : ModeRegistry}

/-- An anchored log whose fast path does not apply begins with its start. -/
lemma Anchored.find_start (h : Anchored serde sessionId log)
    (hnone : checkpointBase serde registry sessionId log = .ok none) :
    ∃ start, log.find? (·.isStart) = some start := by
  obtain ⟨first, hfirst, hkind⟩ := h.head
  obtain ⟨rest, rfl⟩ := List.head?_eq_some_iff.mp hfirst
  rw [checkpointBase] at hnone
  split at hnone
  · rename_i hlast
    have hstart : first.isStart = true :=
      hkind.resolve_right (lastCheckpoint_eq_none hlast first List.mem_cons_self)
    refine ⟨first, ?_⟩
    rw [List.find?_cons, hstart]
  · rename_i checkpoint rest' hlast
    obtain ⟨hmem, hcheck⟩ := lastCheckpoint_mem hlast
    obtain ⟨s, _, hrestore⟩ := h.checkpoints _ hmem hcheck
    rw [hrestore] at hnone
    dsimp only at hnone
    split at hnone <;> cases hnone

/-! ### What a log replays to -/

lemma forgetActivity_applyModeResponse (s : Session) (r : ModeResponse) :
    (s.applyModeResponse r).forgetActivity = s.forgetActivity.applyModeResponse r := by
  cases r <;> rfl

lemma forgetActivity_takeSlot (s : Session) (id : String) :
    (takeSlot s id).forgetActivity = takeSlot s.forgetActivity id := by
  rw [takeSlot, takeSlot]
  split_ifs <;> rfl

/-- Without credit a recorded envelope leaves no activity. -/
lemma applyEnvelope_quiet {s s' : Session} {env : Envelope} {atMs : Int64}
    (h : applyEnvelope s env atMs false mode = .ok s') (hs : s.forgetActivity = s) :
    s'.forgetActivity = s' := by
  unfold applyEnvelope at h
  split at h
  · cases h
    rw [forgetActivity_takeSlot, hs]
  · split at h
    · cases h
    · split at h
      · cases h
      · cases h
        rw [if_neg (by decide), forgetActivity_takeSlot, forgetActivity_applyModeResponse, hs]

/-- Replay leaves no activity. -/
lemma replayEntry_quiet {s s' : Session} (h : replayEntry mode sessionId s entry = .ok s')
    (hs : s.forgetActivity = s) : s'.forgetActivity = s' := by
  unfold replayEntry at h
  split at h
  · rename_i event _
    cases event with
    | Message env atMs => exact applyEnvelope_quiet h hs
    | Synthetic env => exact applyEnvelope_quiet h hs
    | Suspended atMs =>
      cases h
      rw [forgetActivity_suspend, hs]
    | Resumed atMs =>
      cases h
      rw [forgetActivity_resume, hs]
    | Cancelled =>
      cases h
      rw [forgetActivity_cancel, hs]
    | Expired =>
      cases h
      exact congrArg (fun s : Session => { s with state := .Expired }) hs
  · cases h
    exact hs

/-- A rebuilt start has a TTL. -/
lemma replayStart_ttl_pos {prost : Prost} {start : RecordedStart} {s : Session}
    (h : replayStart prost start mode = .ok s) : 0 < s.ttlMs := by
  simp only [replayStart, Except.bind_eq_ok_iff, Except.pure_eq_ok] at h
  obtain ⟨payload, _, _, _, ttlMs, httl, response, _, hs⟩ := h
  cases hs
  have hbind := Session.applyModeResponse_bindings { start.bind payload ttlMs with
    seenMessageIds := (∅ : ExtTreeSet String).insert start.envelope.messageId } response
  have hms : (Session.applyModeResponse { start.bind payload ttlMs with
      seenMessageIds := (∅ : ExtTreeSet String).insert start.envelope.messageId }
        response).ttlMs = ttlMs := congrArg (·.ttlMs) hbind
  have hone : (0 : Int64) < 1 := by decide
  have hpos : 0 < ttlMs := by
    rw [replayTtlMs] at httl
    split_ifs at httl
    · cases httl
      decide
    · obtain ⟨rfl, hle, _⟩ := extractTtlMs_eq_ok httl
      exact Int64.lt_of_lt_of_le hone hle
  exact hpos.trans_eq hms.symm

/-- What comes back from a checkpoint as it is. -/
structure Session.Storable (serde : SessionSerde) (sessionId : String) (s : Session) : Prop
    extends s.Restorable serde sessionId where
  quiet : s.forgetActivity = s

lemma Session.Storable.replayEntry {s s' : Session} (h : s.Storable serde sessionId)
    (hentry : replayEntry mode sessionId s entry = .ok s') : s'.Storable serde sessionId :=
  ⟨h.toRestorable.of_bindings (replayEntry_bindings hentry), replayEntry_quiet hentry h.quiet⟩

/-- A checkpoint of what comes back as it is restores it. -/
lemma Session.Storable.restore {s : Session} (h : s.Storable serde sessionId)
    {checkpoint : LogEntry}
    (hraw : serde.encode (.ofSession s) = some checkpoint.rawPayload) :
    restore serde sessionId checkpoint = .ok (some s) := by
  rw [h.toRestorable.restore hraw, h.quiet]

lemma replayStart_storable {prost : Prost} {start : RecordedStart} {s : Session}
    {policy : PolicyDefinition} (h : replayStart prost start mode = .ok s)
    (hid : start.envelope.sessionId = sessionId) (hpolicy : start.policy = some policy)
    (hexact : serde.Exact policy.rules) : s.Storable serde sessionId := by
  have httl := replayStart_ttl_pos h
  obtain ⟨payload, ttlMs, response, _, rfl⟩ := replayStart_eq_ok h
  have hbind := Session.applyModeResponse_bindings { start.bind payload ttlMs with
    seenMessageIds := (∅ : ExtTreeSet String).insert start.envelope.messageId } response
  refine ⟨⟨?_, httl, policy, ?_, hexact⟩, ?_⟩
  · exact (congrArg (·.sessionId) hbind).trans hid
  · exact (congrArg (·.policyDefinition) hbind).trans hpolicy
  · rw [forgetActivity_applyModeResponse]
    rfl

variable {prost : Prost} {policies : PolicyRegistry}

/-- Every start of the log resolves a policy that is read back from a checkpoint. -/
def ExactStarts (prost : Prost) (serde : SessionSerde) (policies : PolicyRegistry)
    (log : List LogEntry) : Prop :=
  ∀ entry ∈ log, entry.isStart = true →
    ∃ policy, policies.resolve (effectivePolicyId prost entry) = some policy
      ∧ serde.Exact policy.rules

lemma Anchored.replayBase_storable (h : Anchored serde sessionId log)
    (hstarts : ExactStarts prost serde policies log) {base : ReplayBase}
    (hbase : replayBase prost serde registry (some policies) sessionId log = .ok base) :
    base.session.Storable serde sessionId := by
  unfold replayBase at hbase
  split at hbase
  · cases hbase
  · rename_i found hfound
    cases hbase
    obtain ⟨checkpoint, hlast, hrestore, _⟩ := checkpointBase_eq_some hfound
    obtain ⟨hmem, hcheck⟩ := lastCheckpoint_mem hlast
    obtain ⟨s, hs, hrestore'⟩ := h.checkpoints _ hmem hcheck
    have hsame := Option.some.inj (Except.ok.inj (hrestore.symm.trans hrestore'))
    rw [hsame]
    exact ⟨hs.of_bindings s.forgetActivity_bindings, rfl⟩
  · obtain ⟨entry, hfind, _, _, hstart⟩ := startBase_eq_ok hbase
    obtain ⟨policy, hpolicy, hexact⟩ :=
      hstarts entry (List.mem_of_find?_eq_some hfind) (List.find?_some hfind)
    exact replayStart_storable hstart rfl hpolicy hexact

/-- **What an anchored log replays to comes back from a checkpoint as it is.** -/
theorem Anchored.replayed (h : Anchored serde sessionId log)
    (hstarts : ExactStarts prost serde policies log) {r : Session}
    (hr : replaySession prost serde registry (some policies) sessionId log = .ok r) :
    r.Storable serde sessionId ∧ ∃ mode, registry.instantiate r.mode = .ok mode := by
  rw [replaySession_eq_finish, Except.bind_eq_ok_iff] at hr
  obtain ⟨base, hbase, hfinish⟩ := hr
  refine ⟨?_, base.mode, ?_⟩
  · exact ReplayBase.finish_invariant (fun s s' entry hentry hs => hs.replayEntry hentry)
      (h.replayBase_storable hstarts hbase) hfinish
  · have hmode : r.mode = base.session.mode :=
      congrArg (·.mode) (ReplayBase.finish_bindings hfinish)
    rw [hmode]
    exact instantiate_of_replayBase hbase

/-! ### Checkpoints put into a log -/

/-- A log with checkpoints put into it, each the image of what the entries before it replay to. -/
inductive Inserts (serde : SessionSerde) (replay : List LogEntry → Except MacpError Session)
    (log : List LogEntry) : List LogEntry → Prop
  | refl : Inserts serde replay log log
  | insert {before after : List LogEntry} {checkpoint : LogEntry} {s : Session}
      (h : Inserts serde replay log (before ++ after))
      (hkind : checkpoint.entryKind = .Checkpoint) (hreplay : replay before = .ok s)
      (hraw : serde.encode (.ofSession s) = some checkpoint.rawPayload) :
      Inserts serde replay log (before ++ checkpoint :: after)

variable {before after : List LogEntry} {checkpoint : LogEntry} {s : Session}

section

variable (h : Anchored serde sessionId (before ++ after))

include h

lemma Anchored.left (hne : before ≠ []) : Anchored serde sessionId before where
  head := by
    obtain ⟨first, hfirst, hkind⟩ := h.head
    refine ⟨first, ?_, hkind⟩
    rwa [List.head?_append_of_ne_nil _ hne] at hfirst
  checkpoints entry hmem := h.checkpoints entry (List.mem_append_left _ hmem)

lemma Anchored.insert (hne : before ≠ []) (hs : s.Storable serde sessionId)
    (hrestore : restore serde sessionId checkpoint = .ok (some s)) :
    Anchored serde sessionId (before ++ checkpoint :: after) where
  head := by
    obtain ⟨first, hfirst, hkind⟩ := (h.left hne).head
    refine ⟨first, ?_, hkind⟩
    rw [List.head?_append, hfirst]
    rfl
  checkpoints entry hmem hcheck := by
    rw [List.mem_append, List.mem_cons] at hmem
    obtain hmem | rfl | hmem := hmem
    · exact h.checkpoints entry (List.mem_append_left _ hmem) hcheck
    · exact ⟨s, hs.toRestorable, hrestore.trans (by rw [hs.quiet])⟩
    · exact h.checkpoints entry (List.mem_append_right _ hmem) hcheck

/-- **A checkpoint of what the entries before it replay to changes no replay.**  A later
checkpoint hides it, and every other entry replays from the restored session as it did. -/
theorem Anchored.replaySession_insert (hne : before ≠ [])
    (hkind : checkpoint.entryKind = .Checkpoint) (hs : s.Storable serde sessionId)
    (hrestore : restore serde sessionId checkpoint = .ok (some s))
    (hmode : registry.instantiate s.mode = .ok mode)
    (hreplay : replaySession prost serde registry (some policies) sessionId before = .ok s) :
    replaySession prost serde registry (some policies) sessionId (before ++ checkpoint :: after)
      = replaySession prost serde registry (some policies) sessionId (before ++ after) := by
  induction after using List.reverseRecOn with
  | nil =>
    rw [List.append_nil, hreplay]
    exact replaySession_checkpoint hkind hrestore hmode
  | append_singleton after entry ih =>
    rw [← List.append_assoc] at h ⊢
    have hleft : Anchored serde sessionId (before ++ after) :=
      h.left (List.append_ne_nil_of_left_ne_nil hne _)
    have hassoc : before ++ checkpoint :: (after ++ [entry])
        = (before ++ checkpoint :: after) ++ [entry] := by simp
    rw [hassoc]
    by_cases hcheck : entry.entryKind = .Checkpoint
    · have hmem : entry ∈ before ++ after ++ [entry] := by simp
      obtain ⟨t, _, ht⟩ := h.checkpoints entry hmem hcheck
      rw [replaySession_restored hcheck ht, replaySession_restored hcheck ht]
    · rw [replaySession_append_entry hcheck (hleft.insert hne hs hrestore).find_start,
        replaySession_append_entry hcheck hleft.find_start, ih hleft]

end

/-- A log with nothing in it replays to nothing. -/
lemma ne_nil_of_replaySession {policyRegistry : Option PolicyRegistry}
    (h : replaySession prost serde registry policyRegistry sessionId log = .ok s) : log ≠ [] := by
  rintro rfl
  cases h

/-- **Checkpoints put into an anchored log change no replay.** -/
theorem Inserts.replaySession_eq (h : Anchored serde sessionId log)
    (hstarts : ExactStarts prost serde policies log) {log' : List LogEntry}
    (hins : Inserts serde (replaySession prost serde registry (some policies) sessionId) log log') :
    Anchored serde sessionId log' ∧ ExactStarts prost serde policies log'
      ∧ replaySession prost serde registry (some policies) sessionId log'
        = replaySession prost serde registry (some policies) sessionId log := by
  induction hins with
  | refl => exact ⟨h, hstarts, rfl⟩
  | @insert before after checkpoint s _ hkind hreplay hraw ih =>
    obtain ⟨hanchored, hexact, hsame⟩ := ih
    have hne := ne_nil_of_replaySession hreplay
    obtain ⟨hs, mode, hmode⟩ := (hanchored.left hne).replayed
      (fun entry hmem => hexact entry (List.mem_append_left _ hmem)) hreplay
    have hrestore := hs.restore hraw
    refine ⟨hanchored.insert hne hs hrestore, fun entry hmem hstart => ?_, ?_⟩
    · rw [List.mem_append, List.mem_cons] at hmem
      obtain hmem | rfl | hmem := hmem
      · exact hexact entry (List.mem_append_left _ hmem) hstart
      · rw [LogEntry.isStart, hkind] at hstart
        cases hstart
      · exact hexact entry (List.mem_append_right _ hmem) hstart
    · rw [hanchored.replaySession_insert hne hkind hs hrestore hmode hreplay, hsame]

end Anchored

/-! ### Runs -/

/-- **Checkpoint neutrality.**  The log of a session, at any point of any run, replays to the same
result with more checkpoints in it, under any registries that resolve the policy the session
bound, if the rules of that policy are read back from a checkpoint. -/
theorem checkpoint_neutrality {rt : Runtime} {sessionId : String}
    {clock wallClock : Stream' Int64} {writes : Stream' Bool} (ops : List ServerOp) {s : Session}
    (hs : (serverRun rt sessionId (.initial clock wallClock writes) ops).session = some s)
    (hexact : ∀ policy ∈ s.policyDefinition, rt.serde.Exact policy.rules)
    {modes : ModeRegistry} {policies : PolicyRegistry} {log log' : List LogEntry}
    (hlog : (serverRun rt sessionId (.initial clock wallClock writes) ops).io.log = log)
    (hpolicy : ∀ entry ∈ log, entry.isStart = true →
      policies.resolve (effectivePolicyId rt.prost entry) = s.policyDefinition)
    (hins : Inserts rt.serde (replaySession rt.prost rt.serde modes (some policies) sessionId)
      log log') :
    replaySession rt.prost rt.serde modes (some policies) sessionId log'
      = replaySession rt.prost rt.serde modes (some policies) sessionId log := by
  have hstoring := holds_serverRun (storing_maintained rt sessionId Set.univ)
    (fun _ => Set.mem_univ _) hs
  obtain ⟨hrestorable, hanchored⟩ := hstoring hexact
  obtain ⟨policy, hbound, hexact⟩ := hrestorable.policy
  subst hlog
  refine (Inserts.replaySession_eq hanchored ?_ hins).2.2
  exact fun e he hstart => ⟨policy, (hpolicy e he hstart).trans hbound, hexact⟩

/-! ### Samples -/

/-- A checkpoint right after the start of the sample session. -/
theorem checkpoint_neutrality_sample :
    ∃ entry checkpoint,
      (serverRun sampleRuntime sampleId zeroClock
        [.process (Handoff.sampleStart []) none 0]).io.log = [entry]
      ∧ checkpoint.entryKind = .Checkpoint
      ∧ sampleRuntime.replayLog sampleId [entry, checkpoint]
        = sampleRuntime.replayLog sampleId [entry] := by
  obtain ⟨entry, _, hreplay, hid, hstart⟩ := zeroClock_start
  obtain ⟨raw, hraw⟩ : ∃ raw, sampleRuntime.serde.encode
      (.ofSession (Handoff.sampleSession 0)) = some raw := ⟨_, rfl⟩
  let checkpoint := checkpointEntry (Handoff.sampleSession 0) sampleId
    raw 0 0
  have hins : Inserts sampleRuntime.serde (sampleRuntime.replayLog sampleId) [entry]
      ([entry] ++ [checkpoint]) := .insert (List.append_nil [entry] ▸ .refl) rfl hreplay hraw
  have hlog : (serverRun sampleRuntime sampleId zeroClock
      [.process (Handoff.sampleStart []) none 0]).io.log = [entry] := congrArg (·.io.log) hstart
  refine ⟨entry, checkpoint, hlog, rfl, ?_⟩
  refine checkpoint_neutrality _ (congrArg (·.session) hstart) ?_ hlog ?_ hins
  · intro policy hpolicy
    obtain rfl := Option.some.inj hpolicy
    exact sampleRuntime_exact "p" _ rfl
  · intro e he _
    rw [List.mem_singleton.mp he, hid]
    rfl

/-- A supermajority of ten elevenths. -/
def elevenths (threshold : String) : PolicyDefinition where
  policyId := "p"
  mode := "macp.mode.decision.v1"
  description := ""
  rules := .object [("voting", .object
    [("algorithm", .string "supermajority"), ("threshold", .number (.float threshold))])]
  schemaVersion := 1

/-- The registration of the decision mode. -/
def decisionRegistration : ModeRegistration where
  modeName := "macp.mode.decision.v1"
  factory := (Decision.parts Decision.deps).mode
  descriptor := some ⟨"macp.mode.decision.v1", "1", ["SessionStart", "Proposal"], ["Commitment"]⟩
  standardsTrack := true
  builtin := true
  strictSessionStart := true

/-- A runtime with the decision mode, the policy and the parser of `serde_json`. -/
def driftRuntime : Runtime :=
  { sampleRuntime with
    serde := jsonSessionOf shortestDecimal
    registries :=
      ⟨⟨(∅ : ExtTreeMap String ModeRegistration).insert "macp.mode.decision.v1"
          decisionRegistration⟩,
        ⟨(∅ : ExtTreeMap String PolicyDefinition).insert "p" (elevenths "0.9090909090909091"),
          fun _ => .ok ()⟩⟩ }

/-- The start of a decision. -/
def decisionStart : Envelope :=
  { Handoff.sampleStart [] with mode := "macp.mode.decision.v1" }

lemma drift : shortestDecimal.reread (elevenths "0.9090909090909091").rules
    = some (elevenths "0.9090909090909092").rules := by
  have hread : shortestDecimal.read "0.9090909090909091" = some (.ofBits 0x3FED1745D1745D18) := by
    decide +kernel
  have hfinite : (Float.ofBits 0x3FED1745D1745D18).isFinite = true := by decide +kernel
  have hwrite : shortestDecimal.write (.ofBits 0x3FED1745D1745D18) = "0.9090909090909092" := by
    decide +kernel
  simp only [elevenths, FloatText.reread, FloatText.rereadMembers, hread, Option.map_some,
    FloatText.toJson, hfinite, hwrite, if_true, Option.bind_eq_bind, Option.bind_some,
    Option.pure_def]

/-- The world after the start of a session under the policy. -/
def driftWorld : World :=
  serverRun driftRuntime sampleId (.initial (.const 5) (.const 0) (.const true))
    [.process decisionStart none 0]

lemma driftWorld_spec :
    ∃ s entry, driftWorld.session = some s ∧ driftWorld.io.log = [entry]
      ∧ driftRuntime.replayLog sampleId [entry] = .ok s
      ∧ s.policyDefinition = some (elevenths "0.9090909090909091")
      ∧ s.mode = "macp.mode.decision.v1"
      ∧ ∃ raw, jsonSession.encode (.ofSession s) = some raw :=
  ⟨_, _, rfl, rfl, rfl, rfl, rfl, _, rfl⟩

lemma restore_elevenths {s : Session} {raw : Bytes}
    (hpolicy : s.policyDefinition = some (elevenths "0.9090909090909091"))
    (hraw : jsonSession.encode (.ofSession s) = some raw) (checkpoint : LogEntry)
    (hpayload : checkpoint.rawPayload = raw) :
    ∃ r, restore driftRuntime.serde sampleId checkpoint = .ok (some r)
      ∧ r.mode = s.mode ∧ r.policyDefinition = some (elevenths "0.9090909090909092") := by
  have hliteral : ∀ d ∈ (PersistedSession.ofSession s).policyDefinition, d.rules.Literal := by
    intro d hd
    cases hpolicy.symm.trans hd
    have hdigits : Json.Digits "9090909090909091".toList :=
      ⟨by decide, List.all_eq_true.mp rfl⟩
    have htext : Json.FloatLiteral "0.9090909090909091" :=
      ⟨⟨[], ['0'], _, [], .inl rfl, .inl rfl, .inr ⟨_, hdigits, rfl⟩, .inl rfl, by decide⟩,
        by decide⟩
    exact ⟨trivial, ⟨trivial, trivial, htext, trivial⟩, trivial⟩
  have hread : (PersistedSession.ofSession s).reread shortestDecimal
      = some { PersistedSession.ofSession s with
          policyDefinition := some (elevenths "0.9090909090909092") } := by
    have hbound : (PersistedSession.ofSession s).policyDefinition
        = some (elevenths "0.9090909090909091") := hpolicy
    rw [PersistedSession.reread, hbound]
    dsimp only
    rw [drift, Option.map_some]
    rfl
  have hdecode : driftRuntime.serde.decode checkpoint.rawPayload
      = some { PersistedSession.ofSession s with
          policyDefinition := some (elevenths "0.9090909090909092") } := by
    rw [hpayload, ← hread]
    change (jsonSession.decode raw).bind (·.reread shortestDecimal) = _
    rw [jsonSession_decode_encode hliteral hraw, Option.bind_some]
  rw [restore, hdecode]
  exact ⟨_, if_neg (by simp [PersistedSession.toSession]), rfl, rfl⟩

/-- A checkpoint right after the start moves the threshold of the bound policy. -/
theorem checkpoint_moves_a_float :
    ∃ s entry checkpoint r, driftWorld.session = some s ∧ driftWorld.io.log = [entry]
      ∧ Inserts driftRuntime.serde (driftRuntime.replayLog sampleId) [entry]
        [entry, checkpoint]
      ∧ driftRuntime.replayLog sampleId [entry] = .ok s
      ∧ driftRuntime.replayLog sampleId [entry, checkpoint] = .ok r
      ∧ s.policyDefinition = some (elevenths "0.9090909090909091")
      ∧ r.policyDefinition = some (elevenths "0.9090909090909092") ∧ r ≠ s := by
  obtain ⟨s, entry, hs, hlog, hreplay, hpolicy, hname, raw, hraw⟩ := driftWorld_spec
  let checkpoint := checkpointEntry s sampleId raw 5 0
  obtain ⟨r, hrestore, hmode, hmoved⟩ := restore_elevenths hpolicy hraw checkpoint rfl
  have hins : Inserts driftRuntime.serde (driftRuntime.replayLog sampleId) [entry]
      ([entry] ++ [checkpoint]) := .insert (List.append_nil [entry] ▸ .refl) rfl hreplay hraw
  have hinst : driftRuntime.registries.modes.instantiate r.mode
      = .ok (Decision.parts Decision.deps).mode := by
    rw [hmode, hname]
    rfl
  have hmoves : driftRuntime.replayLog sampleId ([entry] ++ [checkpoint]) = .ok r :=
    replaySession_checkpoint rfl hrestore hinst
  refine ⟨s, entry, checkpoint, r, hs, hlog, hins, hreplay, hmoves, hpolicy, hmoved, ?_⟩
  rintro rfl
  have hsame := Option.some.inj (hpolicy.symm.trans hmoved)
  simp [elevenths] at hsame
end MacpRuntime
