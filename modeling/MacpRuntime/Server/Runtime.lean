import Mathlib.Data.Stream.Defs
import MacpRuntime.Server.Replay

/-!
The server kernel (`src/runtime.rs`) on one session: every operation appends to the durable log
first and changes the in-memory session after it.

* `Io`: the durable log, its in-memory copy, the clock readings to come and whether each storage
  write to come succeeds.  A failed write leaves the log as it was;
* `Cell`: a session under its mutex, with `Io`;
* `World`, `ServerOp`, `serverRun`: the registry's slot for one session id, and runs.

Snapshots, metrics, tracing and the event buses have no effect on a session or its log and are left
out.
-/

namespace MacpRuntime

/-! ### Storage and clocks -/

/-- The payloads of the control entries the runtime writes; replay does not read them. -/
structure ControlProst where
  encodeSessionCancel : (reason cancelledBy : String) → Bytes
  encodeSessionSuspend : (reason suspendedBy : String) → Bytes
  encodeSessionResume : (reason resumedBy : String) → (bankedMs : Int64) → Bytes

/-- A runtime's configuration. -/
structure Runtime where
  prost : Prost
  control : ControlProst
  serde : SessionSerde
  registries : Registries
  checkpointInterval : ℕ
  compactTerminalLogs : Bool

/-- What an operation reads and writes besides the session. -/
structure Io where
  log : List LogEntry
  cache : Option (List LogEntry)
  clock : Stream' Int64
  wallClock : Stream' Int64
  writes : Stream' Bool

namespace Io

/-- The acceptance clock. -/
def nowMs (io : Io) : Int64 × Io := (io.clock.head, { io with clock := io.clock.tail })

/-- A storage write with no effect on the log. -/
def write (io : Io) : Bool × Io := (io.writes.head, { io with writes := io.writes.tail })

/-- Append to the durable log and, once that succeeded, to its copy. -/
def append (io : Io) (entry : LogEntry) : Bool × Io :=
  let io' := { io with writes := io.writes.tail }
  if io.writes.head then
    (true, { io' with
      log := io.log ++ [entry]
      cache := some ((io.cache.getD []) ++ [entry]) })
  else (false, io')

/-- Replace the durable log and, once that succeeded, its copy. -/
def replace (io : Io) (entry : LogEntry) : Bool × Io :=
  let io' := { io with writes := io.writes.tail }
  if io.writes.head then (true, { io' with log := [entry], cache := some [entry] })
  else (false, io')

variable {io io' : Io} {entry : LogEntry}

lemma append_eq_true (h : io.append entry = (true, io')) :
    io.writes.head = true ∧ io' = { io with
      log := io.log ++ [entry]
      cache := some (io.cache.getD [] ++ [entry])
      writes := io.writes.tail } := by
  unfold append at h
  split_ifs at h with hok
  · exact ⟨hok, (Prod.mk.inj h).2.symm⟩
  · cases h

lemma append_eq_false (h : io.append entry = (false, io')) :
    io.writes.head = false ∧ io' = { io with writes := io.writes.tail } := by
  unfold append at h
  split_ifs at h with hok
  · cases h
  · exact ⟨Bool.eq_false_iff.mpr hok, (Prod.mk.inj h).2.symm⟩

end Io

/-- A session under its mutex. -/
structure Cell where
  session : Session
  io : Io

/-- What a message or control call reports. -/
structure ProcessResult where
  sessionState : SessionState
  duplicate : Bool
  deriving DecidableEq, Repr

/-! ### Checkpoints and compaction -/

/-- The entry of a checkpoint. -/
def checkpointEntry (session : Session) (sessionId : String) (rawPayload : Bytes) (atMs : Int64)
    (discarded : ℕ) : LogEntry where
  messageId := ""
  receivedAtMs := atMs
  sender := "_runtime"
  messageType := "Checkpoint"
  rawPayload := rawPayload
  entryKind := .Checkpoint
  sessionId := sessionId
  mode := session.mode
  macpVersion := ""
  timestampUnixMs := atMs
  boundModeVersion := none
  semanticsRev := 0
  boundMaxSuspendMs := none
  compactedIncomingOrdinals := discarded

/-- The accepted ordinals a compaction discards, an earlier compaction's included. -/
def discardedOrdinals (cache : Option (List LogEntry)) : ℕ :=
  match cache with
  | none => 0
  | some entries =>
    ((entries.filter (·.entryKind == .Checkpoint)).map (·.compactedIncomingOrdinals)).foldl max 0
      + (entries.filter (·.entryKind == .Incoming)).length

section Kernel

variable (rt : Runtime) (sessionId : String) (c : Cell)

/-- Append a checkpoint, whatever the interval. -/
def forceInsertCheckpoint : Io :=
  match rt.serde.encode (.ofSession c.session) with
  | none => c.io
  | some rawPayload =>
    let (now, io) := c.io.nowMs
    (io.append (checkpointEntry c.session sessionId rawPayload now 0)).2

/-- Append a checkpoint when the log has reached a multiple of the interval. -/
def maybeInsertCheckpoint : Io :=
  if rt.checkpointInterval = 0 then c.io
  else
    let logLen := (c.io.cache.map (·.length)).getD 0
    if logLen < rt.checkpointInterval ∨ logLen % rt.checkpointInterval ≠ 0 then c.io
    else forceInsertCheckpoint rt sessionId c

/-- Replace the log by one checkpoint; the stamp is the wall clock's. -/
def compactSessionLog (discarded : ℕ) : Bool × Io :=
  match rt.serde.encode (.ofSession c.session) with
  | none => (false, c.io)
  | some rawPayload =>
    let io := { c.io with wallClock := c.io.wallClock.tail }
    io.replace (checkpointEntry c.session sessionId rawPayload c.io.wallClock.head discarded)

/-- Compact the log, where the server does so. -/
def maybeCompactLog : Bool × Io :=
  if !rt.compactTerminalLogs then (false, c.io)
  else compactSessionLog rt sessionId c (discardedOrdinals c.io.cache)

/-- What follows a terminal transition: compaction, or a checkpoint when there is none. -/
def closeLog : Io :=
  match maybeCompactLog rt sessionId c with
  | (true, io) => io
  | (false, io) => forceInsertCheckpoint rt sessionId { c with io := io }

/-- What closing a log comes to: one checkpoint in its place; or one at its end, where logs are not
compacted or the session cannot be stored, and where the compaction failed. -/
inductive Closing : Io → Prop
  | compacted {raw : Bytes} {entry : LogEntry} (hcompact : rt.compactTerminalLogs = true)
      (hraw : rt.serde.encode (.ofSession c.session) = some raw) (hok : c.io.writes.head = true)
      (hentry : entry = checkpointEntry c.session sessionId raw c.io.wallClock.head
        (discardedOrdinals c.io.cache)) :
      Closing { c.io with
        log := [entry]
        cache := some [entry]
        wallClock := c.io.wallClock.tail
        writes := c.io.writes.tail }
  | kept (hkept : rt.compactTerminalLogs = true → rt.serde.encode (.ofSession c.session) = none) :
      Closing (forceInsertCheckpoint rt sessionId c)
  | failed (hfailed : c.io.writes.head = false) :
      Closing (forceInsertCheckpoint rt sessionId ⟨c.session,
        { c.io with wallClock := c.io.wallClock.tail, writes := c.io.writes.tail }⟩)

lemma closeLog_closing : Closing rt sessionId c (closeLog rt sessionId c) := by
  rw [closeLog, maybeCompactLog]
  by_cases hcompact : rt.compactTerminalLogs = true
  swap
  · rw [if_pos (by simpa using hcompact)]
    exact .kept fun h => absurd h hcompact
  rw [if_neg (by simp [hcompact]), compactSessionLog]
  rcases hraw : rt.serde.encode (.ofSession c.session) with _ | raw
  · exact .kept fun _ => hraw
  dsimp only [Io.replace]
  by_cases hok : c.io.writes.head = true
  · rw [if_pos hok]
    exact .compacted hcompact hraw hok rfl
  · rw [if_neg hok]
    exact .failed (by simpa using hok)

/-! ### Expiry and synthesis -/

/-- Expire a session that is due. -/
def maybeExpireSession : Cell × Except MacpError Bool :=
  let (now, io) := c.io.nowMs
  if c.session.deadlinePassed now then
    match io.append (makeInternalEntry "TtlExpired" [] sessionId c.session.mode now) with
    | (false, io) => (⟨c.session, io⟩, .error .StorageFailed)
    | (true, io) =>
      match c.session.expire with
      | (session, .error e) => (⟨session, io⟩, .error e)
      | (session, .ok _) => (⟨session, io⟩, .ok true)
  else (⟨c.session, io⟩, .ok false)

/-- Emit the due envelope, if there is one; whether one was appended. -/
def synthesizeDueAccept (nowMs : Int64) : Cell × Except MacpError Bool :=
  match rt.registries.modes.instantiate c.session.mode with
  | .error _ => (c, .ok false)
  | .ok mode =>
    match nextSynthetic c.session mode nowMs with
    | .error e => (c, .error e)
    | .ok none => (c, .ok false)
    | .ok (some syn) =>
      match c.io.append (makeIncomingEntry syn.envelope syn.envelope.timestampUnixMs) with
      | (false, io) => (⟨c.session, io⟩, .error .StorageFailed)
      | (true, io) =>
        let session := (commitSynthetic c.session syn).1
        (⟨session, maybeInsertCheckpoint rt sessionId ⟨session, io⟩⟩, .ok true)

/-! ### Messages -/

/-- The part of a message after the prechecks and the due envelope: dispatch, append, commit. -/
def acceptMessage (mode : Mode) (env : Envelope) (nowMs : Int64) (c : Cell) :
    Cell × Except MacpError ProcessResult :=
  match dispatch c.session env mode nowMs with
  | .error e => (c, .error e)
  | .ok response =>
    match c.io.append (makeIncomingEntry env nowMs) with
    | (false, io) => (⟨c.session, io⟩, .error .StorageFailed)
    | (true, io) =>
      let (session, resultState) := commit c.session env response nowMs
      let io :=
        if resultState = .Resolved then closeLog rt env.sessionId ⟨session, io⟩
        else maybeInsertCheckpoint rt env.sessionId ⟨session, io⟩
      (⟨session, io⟩, .ok ⟨resultState, false⟩)

/-- A message of a session. -/
def processMessage (env : Envelope) (c : Cell) : Cell × Except MacpError ProcessResult :=
  let (nowMs, io) := c.io.nowMs
  let c := { c with io := io }
  match checkPreconditions c.session env nowMs with
  | .error e => (c, .error e)
  | .ok .Duplicate => (c, .ok ⟨c.session.state, true⟩)
  | .ok .Expired =>
    match maybeExpireSession env.sessionId c with
    | (c, .error e) => (c, .error e)
    | (c, .ok _) => (c, .error .TtlExpired)
  | .ok .Proceed =>
    match rt.registries.modes.instantiate c.session.mode with
    | .error e => (c, .error e)
    | .ok mode =>
      match admitEnvelope c.session env mode with
      | .error e => (c, .error e)
      | .ok _ =>
        match synthesizeDueAccept rt env.sessionId c nowMs with
        | (c, .error e) => (c, .error e)
        | (c, .ok _) => acceptMessage rt mode env nowMs c

/-! ### Control calls -/

/-- `cancel_session`. -/
def cancelSession (reason cancelledBy : String) (c : Cell) :
    Cell × Except MacpError ProcessResult :=
  match maybeExpireSession sessionId c with
  | (c, .error e) => (c, .error e)
  | (c, .ok _) =>
    if c.session.state.isTerminal then (c, .ok ⟨c.session.state, false⟩)
    else
      let (nowMs, io) := c.io.nowMs
      match io.append (makeInternalEntry "SessionCancel"
          (rt.control.encodeSessionCancel reason cancelledBy) sessionId c.session.mode nowMs) with
      | (false, io) => (⟨c.session, io⟩, .error .StorageFailed)
      | (true, io) =>
        let session := c.session.cancel.1
        (⟨session, closeLog rt sessionId ⟨session, io⟩⟩, .ok ⟨.Cancelled, false⟩)

/-- `suspend_session`. -/
def suspendSession (reason suspendedBy : String) (c : Cell) :
    Cell × Except MacpError ProcessResult :=
  match maybeExpireSession sessionId c with
  | (c, .error e) => (c, .error e)
  | (c, .ok _) =>
    if c.session.state ≠ .Open then (c, .error .SessionNotOpen)
    else
      let (nowMs, io) := c.io.nowMs
      match io.append (makeInternalEntry "SessionSuspend"
          (rt.control.encodeSessionSuspend reason suspendedBy) sessionId c.session.mode
          nowMs) with
      | (false, io) => (⟨c.session, io⟩, .error .StorageFailed)
      | (true, io) =>
        match c.session.suspend nowMs with
        | (session, .error e) => (⟨session, io⟩, .error e)
        | (session, .ok _) => (⟨session, io⟩, .ok ⟨.Suspended, false⟩)

/-- The TTL left when the pause in progress began, which the resume entry carries. -/
def bankedTtl (session : Session) : Int64 :=
  (session.suspendedAtMs.map fun suspendedAt =>
    max (session.ttlExpiry.saturatingSub suspendedAt) 0).getD 0

/-- `resume_session`. -/
def resumeSession (reason resumedBy : String) (c : Cell) : Cell × Except MacpError ProcessResult :=
  if c.session.state ≠ .Suspended then (c, .error .SessionNotOpen)
  else
    let (nowMs, io) := c.io.nowMs
    match io.append (makeInternalEntry "SessionResume"
        (rt.control.encodeSessionResume reason resumedBy (bankedTtl c.session)) sessionId
        c.session.mode nowMs) with
    | (false, io) => (⟨c.session, io⟩, .error .StorageFailed)
    | (true, io) =>
      match c.session.resume nowMs with
      | (session, .ok _) => (⟨session, io⟩, .ok ⟨.Open, false⟩)
      | (session, .error _) => (⟨session, io⟩, .error .TtlExpired)

/-- The background cleanup of one session: only an open one past its deadline is expired, and
expiry sets the state and nothing else. -/
def cleanupExpiredSession : Cell :=
  let (now, io) := c.io.nowMs
  if c.session.state ≠ .Open ∨ now ≤ c.session.ttlExpiry then ⟨c.session, io⟩
  else
    match io.append (makeInternalEntry "TtlExpired" [] sessionId c.session.mode now) with
    | (false, io) => ⟨c.session, io⟩
    | (true, io) =>
      let session := { c.session with state := .Expired }
      ⟨session, closeLog rt sessionId ⟨session, io⟩⟩

/-- The background sweep of one session. -/
def sweepDueSyntheticAccept : Cell :=
  let (now, io) := c.io.nowMs
  if c.session.state ≠ .Open then ⟨c.session, io⟩
  else (synthesizeDueAccept rt sessionId ⟨c.session, io⟩ now).1

end Kernel

/-! ### Starts -/

/-- The registry's slot for one session id. -/
structure World where
  session : Option Session
  io : Io

section Start

variable (rt : Runtime) (env : Envelope)

/-- The entry of an accepted start, with the bindings replay must not derive anew. -/
def startEntry (acceptedAt : Int64) (v : ValidatedStart) (session : Session) : LogEntry :=
  { makeIncomingEntry env acceptedAt with
    boundModeVersion := v.boundModeVersion
    semanticsRev := session.semanticsRev
    boundMaxSuspendMs := some v.maxSuspendMs }

/-- What the server asks of a start: the registry decides the contract and the version. -/
def startOptions (mode : String) : StartOptions :=
  { strict := some (rt.registries.modes.requiresStrictSessionStart mode)
    descriptorModeVersion := rt.registries.modes.getModeVersion mode }

/-- The session a start is accepted as, with its validated half: the checks up to the
reservation of the slot, at the acceptance clock. -/
def acceptStart (mode : Mode) (v : ValidatedStart) : Except MacpError Session :=
  let requested := v.payload.policyVersion
  let effective := if requested.isEmpty then defaultPolicyId else requested
  match rt.registries.policies.resolve effective with
  | none => .error .UnknownPolicyVersion
  | some policy => v.accept env mode (some policy)

/-- Whether the sender already has as many open sessions as it may. -/
def rateLimited (maxOpenSessions : Option ℕ) (openElsewhere : ℕ) : Bool :=
  maxOpenSessions.any (· ≤ openElsewhere)

/-- Reserve the slot and commit a start; a failed write gives the slot up again. -/
def commitStart (acceptedAt : Int64) (v : ValidatedStart) (session : Session)
    (io : Io) : World × Except MacpError ProcessResult :=
  match io.write with
  | (false, io) => (⟨none, io⟩, .error .StorageFailed)
  | (true, io) =>
    match io.append (startEntry env acceptedAt v session) with
    | (false, io) => (⟨none, io⟩, .error .StorageFailed)
    | (true, io) => (⟨some session, io⟩, .ok ⟨session.state, false⟩)

/-- `openElsewhere` counts the sender's open sessions under other ids. -/
def processSessionStart (maxOpenSessions : Option ℕ) (openElsewhere : ℕ)
    (w : World) : World × Except MacpError ProcessResult :=
  if (trim env.mode).isEmpty then (w, .error .InvalidEnvelope)
  else
    match validateSessionIdForAcceptance env.sessionId with
    | .error e => (w, .error e)
    | .ok _ =>
      match rt.registries.modes.instantiate env.mode with
      | .error e => (w, .error e)
      | .ok mode =>
        let (acceptedAt, io) := w.io.nowMs
        match validateSessionStart rt.prost env acceptedAt (startOptions rt env.mode) with
        | .error e => (⟨w.session, io⟩, .error e)
        | .ok v =>
          match w.session with
          | some existing =>
            if existing.seenMessageIds.contains env.messageId then
              (⟨w.session, io⟩, .ok ⟨existing.state, true⟩)
            else (⟨w.session, io⟩, .error .SessionAlreadyExists)
          | none =>
            match acceptStart rt env mode v with
            | .error e => (⟨none, io⟩, .error e)
            | .ok session =>
              -- the quota check reads the clock again
              let io := if maxOpenSessions.isSome then io.nowMs.2 else io
              if rateLimited maxOpenSessions openElsewhere then
                (⟨none, io⟩, .error .RateLimited)
              else commitStart env acceptedAt v session io

end Start

/-! ### Runs -/

/-- The calls that can reach one session. -/
inductive ServerOp where
  | process (env : Envelope) (maxOpenSessions : Option ℕ) (openElsewhere : ℕ)
  | getSessionChecked
  | cancelSession (reason cancelledBy : String)
  | suspendSession (reason suspendedBy : String)
  | resumeSession (reason resumedBy : String)
  | cleanupExpiredSessions
  | sweepDueSyntheticAccepts

/-- Run a call on the session, when there is one. -/
def World.onCell (w : World) (f : Cell → Cell) : World :=
  match w.session with
  | none => w
  | some session =>
    let c := f ⟨session, w.io⟩
    ⟨some c.session, c.io⟩

/-- The world one call leaves.  An envelope for another session does not reach this one, nor
does a signal or a progress report. -/
def ServerOp.apply (rt : Runtime) (sessionId : String) (w : World) : ServerOp → World
  | .process env maxOpenSessions openElsewhere =>
    if env.sessionId ≠ sessionId then w
    else if env.messageType = "SessionStart" then
      (processSessionStart rt env maxOpenSessions openElsewhere w).1
    else if env.messageType = "Signal" ∨ env.messageType = "Progress" then w
    else w.onCell fun c => (processMessage rt env c).1
  | .getSessionChecked => w.onCell fun c => (maybeExpireSession sessionId c).1
  | .cancelSession reason by' =>
    w.onCell fun c => (MacpRuntime.cancelSession rt sessionId reason by' c).1
  | .suspendSession reason by' =>
    w.onCell fun c => (MacpRuntime.suspendSession rt sessionId reason by' c).1
  | .resumeSession reason by' =>
    w.onCell fun c => (MacpRuntime.resumeSession rt sessionId reason by' c).1
  | .cleanupExpiredSessions => w.onCell (cleanupExpiredSession rt sessionId)
  | .sweepDueSyntheticAccepts => w.onCell (sweepDueSyntheticAccept rt sessionId)

/-- The world a run of calls leaves. -/
def serverRun (rt : Runtime) (sessionId : String) (w : World) (ops : List ServerOp) : World :=
  ops.foldl (ServerOp.apply rt sessionId) w

/-- Before the first call: no session and an empty log. -/
def World.initial (clock wallClock : Stream' Int64) (writes : Stream' Bool) : World :=
  ⟨none, ⟨[], none, clock, wallClock, writes⟩⟩

/-- Rebuild the session from its log with a runtime's own registries. -/
def Runtime.replayLog (rt : Runtime) (sessionId : String) (log : List LogEntry) :
    Except MacpError Session :=
  replaySession rt.prost rt.serde rt.registries.modes (some rt.registries.policies) sessionId log

end MacpRuntime
