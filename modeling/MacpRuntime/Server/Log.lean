import MacpRuntime.Kernel.Replay

/-!
The durable log of a session (`macp-storage/src/log_store.rs`): its entries, how the runtime writes
them (`src/runtime.rs`) and how replay reads them (`src/replay.rs`).  A zero stands for a field that
was not recorded: a zero clock falls back to the envelope's timestamp, a zero timestamp to the
clock.  What is read back of an accepted envelope is that envelope with `Envelope.stamped`, at the
clock it was accepted.
-/

namespace MacpRuntime

/-- What an entry records: an accepted envelope, the runtime's own bookkeeping, or an image of
the session. -/
inductive EntryKind where
  | Incoming
  | Internal
  | Checkpoint
  deriving DecidableEq, Repr

/-- One entry of a session's log. -/
structure LogEntry where
  messageId : String
  receivedAtMs : Int64
  sender : String
  messageType : String
  rawPayload : Bytes
  entryKind : EntryKind
  sessionId : String
  mode : String
  macpVersion : String
  timestampUnixMs : Int64
  boundModeVersion : Option String
  semanticsRev : ℕ
  boundMaxSuspendMs : Option Int64
  compactedIncomingOrdinals : ℕ
  deriving DecidableEq, Repr

/-! ### Writing -/

/-- The entry of an accepted envelope. -/
def makeIncomingEntry (env : Envelope) (receivedAtMs : Int64) : LogEntry where
  messageId := env.messageId
  receivedAtMs := receivedAtMs
  sender := env.sender
  messageType := env.messageType
  rawPayload := env.payload
  entryKind := .Incoming
  sessionId := env.sessionId
  mode := env.mode
  macpVersion := env.macpVersion
  timestampUnixMs := env.timestampUnixMs
  boundModeVersion := none
  semanticsRev := 0
  boundMaxSuspendMs := none
  compactedIncomingOrdinals := 0

/-- An entry the runtime authored itself. -/
def makeInternalEntry (messageType : String) (payload : Bytes) (sessionId mode : String)
    (atMs : Int64) : LogEntry where
  messageId := ""
  receivedAtMs := atMs
  sender := "_runtime"
  messageType := messageType
  rawPayload := payload
  entryKind := .Internal
  sessionId := sessionId
  mode := mode
  macpVersion := MacpRuntime.macpVersion
  timestampUnixMs := atMs
  boundModeVersion := none
  semanticsRev := 0
  boundMaxSuspendMs := none
  compactedIncomingOrdinals := 0

/-! ### Reading -/

/-- The acceptance clock an entry records. -/
def recordedAt (entry : LogEntry) : Int64 :=
  if entry.receivedAtMs ≠ 0 then entry.receivedAtMs else entry.timestampUnixMs

/-- The envelope an entry records, with the defaults of what it left out. -/
def recordedEnvelope (entry : LogEntry) (sessionId sessionMode : String) : Envelope where
  macpVersion := if entry.macpVersion.isEmpty then MacpRuntime.macpVersion else entry.macpVersion
  mode := if entry.mode.isEmpty then sessionMode else entry.mode
  messageType := entry.messageType
  messageId := entry.messageId
  sessionId := sessionId
  sender := entry.sender
  timestampUnixMs :=
    if entry.timestampUnixMs ≠ 0 then entry.timestampUnixMs else entry.receivedAtMs
  payload := entry.rawPayload

/-- The event an entry records; a checkpoint and an unknown internal type record none. -/
def replayEvent (sessionMode sessionId : String) (entry : LogEntry) : Option ReplayEvent :=
  match entry.entryKind with
  | .Incoming =>
    some (.Message (recordedEnvelope entry sessionId sessionMode) (recordedAt entry))
  | .Internal =>
    if entry.messageType = "TtlExpired" then some .Expired
    else if entry.messageType = "SessionCancel" then some .Cancelled
    else if entry.messageType = "SessionSuspend" then some (.Suspended (recordedAt entry))
    else if entry.messageType = "SessionResume" then some (.Resumed (recordedAt entry))
    else none
  | .Checkpoint => none

/-- The log does not tell a participant's message from the runtime's own, so no activity is
credited. -/
def logReplayOptions : ReplayOptions := ⟨false⟩

/-- Replay one entry onto a session. -/
def replayEntry (mode : Mode) (sessionId : String) (session : Session) (entry : LogEntry) :
    Except MacpError Session :=
  match replayEvent session.mode sessionId entry with
  | some event => applyEvent mode logReplayOptions session event
  | none => .ok session

/-! ### What is read back of what was written -/

/-- An envelope whose missing timestamp is filled in. -/
def Envelope.stamped (env : Envelope) (atMs : Int64) : Envelope :=
  { env with timestampUnixMs := if env.timestampUnixMs ≠ 0 then env.timestampUnixMs else atMs }

/-- An envelope of the session that carries a version is read back, up to a missing
timestamp. -/
lemma recordedEnvelope_makeIncomingEntry {env : Envelope} {sessionId sessionMode : String}
    (hversion : env.macpVersion = macpVersion) (hid : env.sessionId = sessionId)
    (hmode : env.mode = sessionMode) (atMs : Int64) :
    recordedEnvelope (makeIncomingEntry env atMs) sessionId sessionMode = env.stamped atMs := by
  subst hid hmode
  have hne : ¬ env.macpVersion.isEmpty = true := by
    rw [hversion]
    decide
  rw [recordedEnvelope, Envelope.stamped, Envelope.mk.injEq]
  exact ⟨if_neg hne, ite_self _, rfl, rfl, rfl, rfl, rfl, rfl⟩

/-- The clock is read back, unless it read zero and the envelope has a timestamp. -/
lemma recordedAt_makeIncomingEntry {env : Envelope} {atMs : Int64}
    (h : atMs ≠ 0 ∨ env.timestampUnixMs = atMs) :
    recordedAt (makeIncomingEntry env atMs) = atMs := by
  rw [recordedAt]
  split_ifs with h0
  · rfl
  · exact h.resolve_left h0

lemma recordedAt_makeInternalEntry (messageType : String) (payload : Bytes)
    (sessionId mode : String) (atMs : Int64) :
    recordedAt (makeInternalEntry messageType payload sessionId mode atMs) = atMs := by
  rw [recordedAt]
  exact ite_self _

section Entry

variable (mode : Mode) (sessionId : String) (session : Session) (payload : Bytes) (name : String)
  (atMs : Int64)

lemma replayEntry_expired :
    replayEntry mode sessionId session
        (makeInternalEntry "TtlExpired" payload sessionId name atMs)
      = .ok { session with state := .Expired } := rfl

lemma replayEntry_cancel :
    replayEntry mode sessionId session
        (makeInternalEntry "SessionCancel" payload sessionId name atMs)
      = .ok session.cancel.1 := rfl

lemma replayEntry_suspend :
    replayEntry mode sessionId session
        (makeInternalEntry "SessionSuspend" payload sessionId name atMs)
      = .ok (session.suspend atMs).1 := by
  have hat := recordedAt_makeInternalEntry "SessionSuspend" payload sessionId name atMs
  rw [replayEntry, replayEvent]
  simp only [makeInternalEntry, String.reduceEq, if_false, if_true] at hat ⊢
  rw [hat, applyEvent]

lemma replayEntry_resume :
    replayEntry mode sessionId session
        (makeInternalEntry "SessionResume" payload sessionId name atMs)
      = .ok (session.resume atMs).1 := by
  have hat := recordedAt_makeInternalEntry "SessionResume" payload sessionId name atMs
  rw [replayEntry, replayEvent]
  simp only [makeInternalEntry, String.reduceEq, if_false, if_true] at hat ⊢
  rw [hat, applyEvent]

end Entry

end MacpRuntime
