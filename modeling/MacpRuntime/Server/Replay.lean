import MacpRuntime.Server.Log
import MacpRuntime.Server.Persisted
import MacpRuntime.Server.Registries

/-!
Rebuilding a session from its durable log (`src/replay.rs`), from the last checkpoint on or else
from the start.  A checkpoint that names a policy without holding its definition is not used.  Both
paths find a base (`ReplayBase`: a session, its mode and the entries still to come) and replay the
rest.

* `replaySession_concat`: **the replay of a longer log is the replay of the shorter one followed by
  the new entry**;
* `replaySession_checkpoint`: **a log that ends in a usable checkpoint replays to its image**.
-/

namespace MacpRuntime

/-! ### The model -/

/-- The last checkpoint of a log and the entries after it. -/
def lastCheckpoint : List LogEntry → Option (LogEntry × List LogEntry)
  | [] => none
  | entry :: rest =>
    match lastCheckpoint rest with
    | some found => some found
    | none => if entry.entryKind = .Checkpoint then some (entry, rest) else none

/-- Where a replay begins. -/
structure ReplayBase where
  session : Session
  mode : Mode
  rest : List LogEntry

/-- Replay the entries still to come. -/
def ReplayBase.finish (base : ReplayBase) (sessionId : String) : Except MacpError Session :=
  base.rest.foldlM (replayEntry base.mode sessionId) base.session

/-- Whether an entry records a start. -/
def LogEntry.isStart (entry : LogEntry) : Bool :=
  entry.entryKind == .Incoming && entry.messageType == "SessionStart"

section Model

variable (prost : Prost) (serde : SessionSerde) (registry : ModeRegistry)
  (policyRegistry : Option PolicyRegistry) (sessionId : String)

/-- A session restored from a checkpoint, unless it lacks the policy it names. -/
def restore (checkpoint : LogEntry) : Except MacpError (Option Session) :=
  match serde.decode checkpoint.rawPayload with
  | none => .error .InvalidPayload
  | some persisted =>
    let session := { persisted.toSession with sessionId := sessionId }
    if !session.policyVersion.isEmpty && session.policyDefinition.isNone then .ok none
    else .ok (some session)

variable (log : List LogEntry)

/-- The base of the fast path. -/
def checkpointBase : Except MacpError (Option ReplayBase) :=
  match lastCheckpoint log with
  | none => .ok none
  | some (checkpoint, rest) =>
    match restore serde sessionId checkpoint with
    | .error e => .error e
    | .ok none => .ok none
    | .ok (some session) =>
      match registry.instantiate session.mode with
      | .error e => .error e
      | .ok mode => .ok (some ⟨session, mode, rest⟩)

/-- Replay from the latest checkpoint, if there is one. -/
def tryReplayFromCheckpoint : Except MacpError (Option Session) :=
  match checkpointBase serde registry sessionId log with
  | .error e => .error e
  | .ok none => .ok none
  | .ok (some base) => (base.finish sessionId).map some

/-- The start an entry records, without a policy.  The registry decides whether the canonical
contract applies; every other binding is the recorded one. -/
def startRecord (entry : LogEntry) : RecordedStart where
  envelope := recordedEnvelope entry sessionId entry.mode
  acceptedAtMs := entry.receivedAtMs
  semanticsRev := entry.semanticsRev
  maxSuspendMs := entry.boundMaxSuspendMs.getD 0
  boundModeVersion := entry.boundModeVersion
  policy := none
  strict := some (registry.requiresStrictSessionStart entry.mode)

/-- The start a log records, and the entry and mode it was found with. -/
def recordedStart : Except MacpError (LogEntry × RecordedStart × Mode) :=
  match log.find? (·.isStart) with
  | none => .error .InvalidPayload
  | some entry =>
    if entry.mode.isEmpty then .error .InvalidPayload
    else
      match registry.instantiate entry.mode with
      | .error e => .error e
      | .ok mode =>
        .ok (entry, startRecord registry sessionId entry, mode)

/-- The policy id a recorded start asks for; an undecodable or silent payload asks for the
default one. -/
def effectivePolicyId (entry : LogEntry) : String :=
  match parseSessionStartPayload prost entry.rawPayload with
  | .error _ => defaultPolicyId
  | .ok payload => if payload.policyVersion.isEmpty then defaultPolicyId else payload.policyVersion

/-- The base of the full replay. -/
def startBase : Except MacpError ReplayBase :=
  match recordedStart registry sessionId log with
  | .error e => .error e
  | .ok (entry, start, mode) =>
    let policy := policyRegistry.bind fun policies =>
      policies.resolve (effectivePolicyId prost entry)
    match replayStart prost { start with policy := policy } mode with
    | .error e => .error e
    | .ok session => .ok ⟨session, mode, log.drop 1⟩

/-- Replay from the start. -/
def replayFromStart : Except MacpError Session :=
  match startBase prost registry policyRegistry sessionId log with
  | .error e => .error e
  | .ok base => base.finish sessionId

/-- Rebuild a session from its log. -/
def replaySession : Except MacpError Session :=
  match tryReplayFromCheckpoint serde registry sessionId log with
  | .error e => .error e
  | .ok (some session) => .ok session
  | .ok none => replayFromStart prost registry policyRegistry sessionId log

/-- The base a log is replayed from. -/
def replayBase : Except MacpError ReplayBase :=
  match checkpointBase serde registry sessionId log with
  | .error e => .error e
  | .ok (some base) => .ok base
  | .ok none => startBase prost registry policyRegistry sessionId log

end Model

/-! ### Replay as a base and the rest -/

section Laws

variable {prost : Prost} {serde : SessionSerde} {registry : ModeRegistry}
  {policyRegistry : Option PolicyRegistry} {sessionId : String} {log : List LogEntry}

/-- A replay is its base, finished. -/
lemma replaySession_eq_finish :
    replaySession prost serde registry policyRegistry sessionId log
      = (replayBase prost serde registry policyRegistry sessionId log)
          >>= (·.finish sessionId) := by
  rw [replaySession, tryReplayFromCheckpoint, replayBase]
  rcases checkpointBase serde registry sessionId log with e | _ | base
  · rfl
  · rw [replayFromStart]
    cases startBase prost registry policyRegistry sessionId log <;> rfl
  · dsimp only
    rw [Except.ok_bind]
    cases base.finish sessionId <;> rfl

variable {entry checkpoint : LogEntry} {mode : Mode} {s s' session : Session} {base : ReplayBase}

/-- Appending an entry that is no checkpoint keeps the last checkpoint. -/
lemma lastCheckpoint_concat (h : entry.entryKind ≠ .Checkpoint) (log : List LogEntry) :
    lastCheckpoint (log ++ [entry])
      = (lastCheckpoint log).map fun found => (found.1, found.2 ++ [entry]) := by
  induction log with
  | nil => rw [List.nil_append, lastCheckpoint, lastCheckpoint, if_neg h]; rfl
  | cons first rest ih =>
    rw [List.cons_append, lastCheckpoint, lastCheckpoint, ih]
    cases lastCheckpoint rest with
    | some found => rfl
    | none =>
      dsimp only [Option.map_none]
      split_ifs <;> rfl

/-- A checkpoint at the end is the last one. -/
lemma lastCheckpoint_checkpoint (h : entry.entryKind = .Checkpoint) (log : List LogEntry) :
    lastCheckpoint (log ++ [entry]) = some (entry, []) := by
  induction log with
  | nil => rw [List.nil_append, lastCheckpoint, lastCheckpoint, if_pos h]
  | cons first rest ih => rw [List.cons_append, lastCheckpoint, ih]

/-- The last checkpoint is an entry of the log. -/
lemma lastCheckpoint_mem {found : LogEntry × List LogEntry}
    (h : lastCheckpoint log = some found) : found.1 ∈ log ∧ found.1.entryKind = .Checkpoint := by
  induction log with
  | nil => cases h
  | cons entry rest ih =>
    rw [lastCheckpoint] at h
    split at h
    · rename_i hfound
      cases h
      obtain ⟨hmem, hkind⟩ := ih hfound
      exact ⟨List.mem_cons_of_mem _ hmem, hkind⟩
    · split_ifs at h with hkind
      cases h
      exact ⟨List.mem_cons_self, hkind⟩

/-! ### What an event leaves alone -/

lemma takeSlot_bindings (s : Session) (id : String) : (takeSlot s id).bindings = s.bindings := by
  rw [takeSlot]
  split_ifs <;> rfl

lemma applyEnvelope_bindings {env : Envelope} {atMs : Int64} {credit : Bool}
    (h : applyEnvelope s env atMs credit mode = .ok s') : s'.bindings = s.bindings := by
  unfold applyEnvelope at h
  split at h
  · cases h
    exact takeSlot_bindings s _
  · split at h
    · cases h
    · split at h
      · cases h
      · cases h
        rw [takeSlot_bindings]
        split_ifs
        · exact Session.applyModeResponse_bindings s _
        · exact Session.applyModeResponse_bindings s _

/-- No event changes what a session binds. -/
lemma applyEvent_bindings {opts : ReplayOptions} {e : ReplayEvent}
    (h : applyEvent mode opts s e = .ok s') : s'.bindings = s.bindings := by
  cases e with
  | Message env atMs => exact applyEnvelope_bindings h
  | Synthetic env => exact applyEnvelope_bindings h
  | Suspended atMs =>
    cases h
    rw [Session.suspend]
    split_ifs <;> rfl
  | Resumed atMs =>
    cases h
    exact s.resume_bindings atMs
  | Cancelled =>
    cases h
    rw [Session.cancel]
    split_ifs <;> rfl
  | Expired =>
    cases h
    rfl

lemma replayEntry_bindings (h : replayEntry mode sessionId s entry = .ok s') :
    s'.bindings = s.bindings := by
  unfold replayEntry at h
  split at h
  · exact applyEvent_bindings h
  · cases h
    rfl

/-- **What every entry keeps, the rest of a replay keeps.** -/
theorem ReplayBase.finish_invariant {P : Session → Prop}
    (hstep : ∀ s s' entry, replayEntry base.mode sessionId s entry = .ok s' → P s → P s')
    (hP : P base.session) (h : base.finish sessionId = .ok s) : P s := by
  obtain ⟨session, mode, rest⟩ := base
  rw [ReplayBase.finish] at h
  dsimp only at h hstep hP
  induction rest generalizing session with
  | nil =>
    cases h
    exact hP
  | cons entry rest ih =>
    rw [List.foldlM_cons, Except.bind_eq_ok_iff] at h
    obtain ⟨s', hentry, hrest⟩ := h
    exact ih s' (hstep _ _ _ hentry hP) hrest

lemma ReplayBase.finish_bindings (h : base.finish sessionId = .ok s) :
    s.bindings = base.session.bindings :=
  finish_invariant (P := fun s => s.bindings = base.session.bindings)
    (fun _ _ _ hentry hs => (replayEntry_bindings hentry).trans hs) rfl h

/-! ### Appending an entry -/

/-- A base with one more entry to come. -/
def ReplayBase.push (base : ReplayBase) (entry : LogEntry) : ReplayBase :=
  { base with rest := base.rest ++ [entry] }

lemma ReplayBase.finish_push (base : ReplayBase) (entry : LogEntry) :
    (base.push entry).finish sessionId
      = base.finish sessionId >>= fun s => replayEntry base.mode sessionId s entry := by
  rw [finish, push, List.foldlM_append, finish]
  refine congrArg _ (funext fun s => ?_)
  rw [List.foldlM_cons]
  cases replayEntry base.mode sessionId s entry <;> rfl

/-- A base of the fast path is a restored session with the mode it names. -/
lemma checkpointBase_eq_some (h : checkpointBase serde registry sessionId log = .ok (some base)) :
    ∃ checkpoint, lastCheckpoint log = some (checkpoint, base.rest)
      ∧ restore serde sessionId checkpoint = .ok (some base.session)
      ∧ registry.instantiate base.session.mode = .ok base.mode := by
  unfold checkpointBase at h
  split at h
  · cases h
  · rename_i checkpoint rest hlast
    split at h
    · cases h
    · cases h
    · rename_i session hrestore
      split at h
      · cases h
      · rename_i mode hmode
        cases h
        exact ⟨checkpoint, hlast, hrestore, hmode⟩

/-- A recorded start is the first start entry, in a mode that resolves. -/
lemma recordedStart_eq_ok {found : LogEntry × RecordedStart × Mode}
    (h : recordedStart registry sessionId log = .ok found) :
    log.find? (·.isStart) = some found.1 ∧ found.2.1 = startRecord registry sessionId found.1
      ∧ registry.instantiate found.1.mode = .ok found.2.2 := by
  unfold recordedStart at h
  split at h
  · cases h
  · rename_i entry hentry
    split_ifs at h with hempty
    split at h
    · cases h
    · rename_i mode hmode
      cases h
      exact ⟨hentry, rfl, hmode⟩

/-- A base of the full replay is its recorded start, rebuilt under the policy the registry
resolves. -/
lemma startBase_eq_ok (h : startBase prost registry policyRegistry sessionId log = .ok base) :
    ∃ entry, log.find? (·.isStart) = some entry
      ∧ registry.instantiate entry.mode = .ok base.mode ∧ base.rest = log.drop 1
      ∧ replayStart prost { startRecord registry sessionId entry with
            policy := policyRegistry.bind (·.resolve (effectivePolicyId prost entry)) } base.mode
          = .ok base.session := by
  unfold startBase at h
  split at h
  · cases h
  · rename_i entry start mode hfound
    obtain ⟨hfind, hstart, hmode⟩ := recordedStart_eq_ok hfound
    dsimp only at h hfind hstart hmode
    subst hstart
    split at h
    · cases h
    · rename_i session hsession
      cases h
      exact ⟨entry, hfind, hmode, rfl, hsession⟩

/-- A rebuilt start is in the mode its envelope names. -/
lemma replayStart_mode {start : RecordedStart} (h : replayStart prost start mode = .ok s) :
    s.mode = start.envelope.mode := by
  obtain ⟨payload, ttlMs, response, _, rfl⟩ := replayStart_eq_ok h
  exact congrArg (·.mode) (Session.applyModeResponse_bindings _ response)

/-- The mode of a base is the one its session names. -/
lemma instantiate_of_replayBase
    (h : replayBase prost serde registry policyRegistry sessionId log = .ok base) :
    registry.instantiate base.session.mode = .ok base.mode := by
  unfold replayBase at h
  split at h
  · cases h
  · rename_i found hfound
    cases h
    obtain ⟨_, _, _, hmode⟩ := checkpointBase_eq_some hfound
    exact hmode
  · obtain ⟨entry, _, hmode, _, hstart⟩ := startBase_eq_ok h
    have henv : (recordedEnvelope entry sessionId entry.mode).mode = entry.mode := ite_self _
    rw [replayStart_mode hstart, ← hmode]
    exact congrArg registry.instantiate henv

lemma checkpointBase_concat (h : entry.entryKind ≠ .Checkpoint) :
    checkpointBase serde registry sessionId (log ++ [entry])
      = (checkpointBase serde registry sessionId log).map (Option.map (·.push entry)) := by
  rw [checkpointBase, checkpointBase, lastCheckpoint_concat h]
  rcases lastCheckpoint log with _ | ⟨checkpoint, rest⟩
  · rfl
  · dsimp only [Option.map_some]
    rcases restore serde sessionId checkpoint with e | _ | session
    · rfl
    · rfl
    · dsimp only
      cases registry.instantiate session.mode <;> rfl

lemma startBase_concat {start : LogEntry} (h : log.find? (·.isStart) = some start) :
    startBase prost registry policyRegistry sessionId (log ++ [entry])
      = (startBase prost registry policyRegistry sessionId log).map (·.push entry) := by
  have hfind : (log ++ [entry]).find? (·.isStart) = some start := by
    rw [List.find?_append, h]
    rfl
  have hrecorded : recordedStart registry sessionId (log ++ [entry])
      = recordedStart registry sessionId log := by
    rw [recordedStart, recordedStart, hfind, h]
  have hdrop : (log ++ [entry]).drop 1 = log.drop 1 ++ [entry] := by
    cases log with
    | nil => cases h
    | cons first rest => rfl
  rw [startBase, startBase, hrecorded, hdrop]
  rcases recordedStart registry sessionId log with e | ⟨found, recorded, mode⟩
  · rfl
  · dsimp only
    cases replayStart prost _ mode <;> rfl

/-- A log that holds a start, or a checkpoint the fast path uses. -/
def Rooted (serde : SessionSerde) (registry : ModeRegistry) (sessionId : String)
    (log : List LogEntry) : Prop :=
  (∃ start, log.find? (·.isStart) = some start)
    ∨ ∃ base, checkpointBase serde registry sessionId log = .ok (some base)

lemma Rooted.exists_start (hroot : Rooted serde registry sessionId log)
    (hnone : checkpointBase serde registry sessionId log = .ok none) :
    ∃ start, log.find? (·.isStart) = some start := by
  refine hroot.resolve_right ?_
  rintro ⟨base, hbase⟩
  cases hnone.symm.trans hbase

section

variable (h : entry.entryKind ≠ .Checkpoint)

include h

lemma replayBase_concat
    (hstart : checkpointBase serde registry sessionId log = .ok none →
      ∃ start, log.find? (·.isStart) = some start) :
    replayBase prost serde registry policyRegistry sessionId (log ++ [entry])
      = (replayBase prost serde registry policyRegistry sessionId log).map (·.push entry) := by
  rw [replayBase, replayBase, checkpointBase_concat h]
  rcases hcheck : checkpointBase serde registry sessionId log with e | _ | base
  · rfl
  · obtain ⟨start, hfind⟩ := hstart hcheck
    exact startBase_concat hfind
  · rfl

/-- The replay of a longer log, unless the shorter one has nothing to begin with. -/
lemma replaySession_append_entry
    (hstart : checkpointBase serde registry sessionId log = .ok none →
      ∃ start, log.find? (·.isStart) = some start) :
    replaySession prost serde registry policyRegistry sessionId (log ++ [entry])
      = (replaySession prost serde registry policyRegistry sessionId log) >>= fun s =>
          registry.instantiate s.mode >>= fun mode => replayEntry mode sessionId s entry := by
  rw [replaySession_eq_finish, replaySession_eq_finish, replayBase_concat h hstart]
  rcases hbase : replayBase prost serde registry policyRegistry sessionId log with e | base
  · rfl
  · have hmode := instantiate_of_replayBase hbase
    rw [Except.ok_bind]
    change (base.push entry).finish sessionId = _
    rw [base.finish_push]
    rcases hs : base.finish sessionId with e | s
    · rfl
    · have hname : s.mode = base.session.mode :=
        congrArg (·.mode) (ReplayBase.finish_bindings hs)
      rw [Except.ok_bind, Except.ok_bind, hname, hmode, Except.ok_bind]

/-- **The replay of a longer log is the replay of the shorter one, then the new entry.** -/
theorem replaySession_concat (hroot : Rooted serde registry sessionId log) :
    replaySession prost serde registry policyRegistry sessionId (log ++ [entry])
      = (replaySession prost serde registry policyRegistry sessionId log) >>= fun s =>
          registry.instantiate s.mode >>= fun mode => replayEntry mode sessionId s entry :=
  replaySession_append_entry h hroot.exists_start

end

/-- A restored session is all that a log replays to which ends in its checkpoint. -/
lemma replaySession_restored (h : checkpoint.entryKind = .Checkpoint)
    (hrestore : restore serde sessionId checkpoint = .ok (some session)) :
    replaySession prost serde registry policyRegistry sessionId (log ++ [checkpoint])
      = (registry.instantiate session.mode).map fun _ => session := by
  rw [replaySession, tryReplayFromCheckpoint]
  simp only [checkpointBase, lastCheckpoint_checkpoint h, hrestore]
  cases registry.instantiate session.mode <;> rfl

/-- **A log that ends in a usable checkpoint replays to its image.** -/
theorem replaySession_checkpoint (h : checkpoint.entryKind = .Checkpoint)
    (hrestore : restore serde sessionId checkpoint = .ok (some session))
    (hmode : registry.instantiate session.mode = .ok mode) :
    replaySession prost serde registry policyRegistry sessionId (log ++ [checkpoint])
      = .ok session := by
  rw [replaySession_restored h hrestore, hmode]
  rfl

/-! ### Images -/

/-- What a session must hold to come back from a checkpoint. -/
structure Session.Restorable (serde : SessionSerde) (sessionId : String) (s : Session) : Prop where
  sessionId_eq : s.sessionId = sessionId
  ttl_pos : 0 < s.ttlMs
  policy : ∃ policy, s.policyDefinition = some policy ∧ serde.Exact policy.rules

lemma Session.Restorable.of_bindings (h : s.Restorable serde sessionId)
    (hbind : s'.bindings = s.bindings) : s'.Restorable serde sessionId where
  sessionId_eq := (congrArg (·.sessionId) hbind).trans h.sessionId_eq
  ttl_pos := h.ttl_pos.trans_eq (congrArg (·.ttlMs) hbind).symm
  policy := by
    obtain ⟨policy, hpolicy, hexact⟩ := h.policy
    exact ⟨policy, (congrArg (·.policyDefinition) hbind).trans hpolicy, hexact⟩

/-- A checkpoint restores the session it is the image of, without its activity. -/
lemma Session.Restorable.restore (h : s.Restorable serde sessionId)
    (hraw : serde.encode (.ofSession s) = some checkpoint.rawPayload) :
    restore serde sessionId checkpoint = .ok (some s.forgetActivity) := by
  obtain ⟨policy, hpolicy, hexact⟩ := h.policy
  have hdecode : serde.decode checkpoint.rawPayload = some (.ofSession s) := by
    refine serde.decode_encode _ _ (fun d hd => ?_) hraw
    have hd' : s.policyDefinition = some d := hd
    cases hpolicy.symm.trans hd'
    exact hexact
  have hid : ({ s.forgetActivity with sessionId := sessionId } : Session) = s.forgetActivity := by
    rw [← h.sessionId_eq]
    rfl
  have hheld : s.forgetActivity.policyDefinition.isNone = false := by
    rw [show s.forgetActivity.policyDefinition = some policy from hpolicy]
    rfl
  rw [MacpRuntime.restore]
  simp only [hdecode, PersistedSession.toSession_ofSession h.ttl_pos, hid, hheld,
    Bool.and_false, Bool.false_eq_true, ↓reduceIte]

end Laws

end MacpRuntime
