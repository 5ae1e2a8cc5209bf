import MacpRuntime.Lib.Saturating
import MacpRuntime.Core.Data

/-!
The session model (`macp-core/src/session.rs`): the record, its builder, and the transitions that
need no mode.

* `suspend`, `resume`, `cancel`, `expire`: the lifecycle transitions, each with the session it
  leaves, because a refused `resume` may still have changed it;
* `deadlinePassed`, `suspendCapExceeded`: the expiry predicates;
* `unsuspendedDeadline`: the walk over the completed pauses that finds the instant at which a span
  of unsuspended time has elapsed;
* `bindings`: what a session binds when it begins; no transition changes it.

Plain subtraction of two clocks wraps, as it does in a release build.
-/

namespace MacpRuntime

open Std

/-- The longest TTL a session may ask for. -/
def maxTtlMs : Int64 := 24 * 60 * 60 * 1000

/-- The default cap on the cumulative time a session may spend suspended. -/
def maxSuspendMs : Int64 := 7 * 24 * 60 * 60 * 1000

/-- The cap on the number of completed suspend/resume cycles. -/
def maxSuspensionCycles : ℕ := 1024

/-- The session-semantics revision new sessions are accepted under. -/
def currentSemanticsRev : ℕ := 4

/-- The suspension cap a new session binds: the payload's value when positive, else
the default. -/
def resolveMaxSuspendMs (payloadValue : Int64) : Int64 :=
  if 0 < payloadValue then payloadValue else maxSuspendMs

/-- The lifecycle state of a session. -/
inductive SessionState where
  | Open
  | Suspended
  | Resolved
  | Expired
  | Cancelled
  deriving DecidableEq, Repr

/-- Terminal states accept no further transitions. -/
def SessionState.isTerminal : SessionState → Bool
  | .Open | .Suspended => false
  | .Resolved | .Expired | .Cancelled => true

/-- The session record. -/
structure Session where
  sessionId : String
  state : SessionState
  ttlExpiry : Int64
  ttlMs : Int64
  startedAtUnixMs : Int64
  resolution : Option Bytes
  mode : String
  modeState : Bytes
  participants : List String
  seenMessageIds : ExtTreeSet String
  intent : String
  modeVersion : String
  configurationVersion : String
  policyVersion : String
  contextId : String
  extensions : ExtTreeMap String Bytes
  roots : List Root
  initiatorSender : String
  participantMessageCounts : ExtTreeMap String UInt32
  participantLastSeen : ExtTreeMap String Int64
  policyDefinition : Option PolicyDefinition
  suspendedAtMs : Option Int64
  accumulatedSuspendedMs : Int64
  suspensionIntervals : List (Int64 × Int64)
  semanticsRev : ℕ
  maxSuspendMs : Int64

namespace Session

/-- The builder's defaults: an open session that never expires, at the current
revision, with everything else empty. -/
def builder (sessionId mode initiatorSender : String) : Session where
  sessionId := sessionId
  state := .Open
  ttlExpiry := Int64.maxValue
  ttlMs := 0
  startedAtUnixMs := 0
  resolution := none
  mode := mode
  modeState := []
  participants := []
  seenMessageIds := ∅
  intent := ""
  modeVersion := ""
  configurationVersion := ""
  policyVersion := ""
  contextId := ""
  extensions := ∅
  roots := []
  initiatorSender := initiatorSender
  participantMessageCounts := ∅
  participantLastSeen := ∅
  policyDefinition := none
  suspendedAtMs := none
  accumulatedSuspendedMs := 0
  suspensionIntervals := []
  semanticsRev := currentSemanticsRev
  maxSuspendMs := 0

variable (s : Session)

/-- Credit a participant with one message at the given clock. -/
def recordParticipantActivity (sender : String) (timestampMs : Int64) : Session :=
  { s with
    participantMessageCounts :=
      s.participantMessageCounts.insert sender ((s.participantMessageCounts[sender]?).getD 0 + 1)
    participantLastSeen := s.participantLastSeen.insert sender timestampMs }

/-- Suspend an open session. -/
def suspend (nowMs : Int64) : Session × Except MacpError Unit :=
  if s.state ≠ .Open then (s, .error .SessionNotOpen)
  else ({ s with state := .Suspended, suspendedAtMs := some nowMs }, .ok ())

/-- The suspension cap governing the session. -/
def effectiveMaxSuspendMs : Int64 :=
  if 0 < s.maxSuspendMs then s.maxSuspendMs else MacpRuntime.maxSuspendMs

/-- The time the pause ending at `nowMs` banks: never negative, even when the clock
stepped back. -/
def banked (nowMs : Int64) : Int64 :=
  max (nowMs - s.suspendedAtMs.getD nowMs) 0

/-- The completed pause is recorded before either cap is tested.  Below revision 2 a
full list stops recording instead. -/
def recordPause (nowMs : Int64) : Session :=
  { s with
    accumulatedSuspendedMs := s.accumulatedSuspendedMs.saturatingAdd (s.banked nowMs)
    suspendedAtMs := none
    suspensionIntervals :=
      if 2 ≤ s.semanticsRev ∨ s.suspensionIntervals.length < maxSuspensionCycles then
        s.suspensionIntervals ++ [(s.suspendedAtMs.getD nowMs, nowMs)]
      else s.suspensionIntervals }

/-- Resume a suspended session, banking the pause into the TTL deadline; past either
suspension cap the session expires instead. -/
def resume (nowMs : Int64) : Session × Except MacpError Unit :=
  if s.state ≠ .Suspended then (s, .error .SessionNotOpen)
  else
    let s' := s.recordPause nowMs
    if 2 ≤ s'.semanticsRev ∧ maxSuspensionCycles < s'.suspensionIntervals.length then
      ({ s' with state := .Expired }, .error .TtlExpired)
    else if s'.effectiveMaxSuspendMs < s'.accumulatedSuspendedMs then
      ({ s' with state := .Expired }, .error .TtlExpired)
    else
      ({ s' with
          ttlExpiry := s'.ttlExpiry.saturatingAdd (s.banked nowMs)
          state := .Open }, .ok ())

/-- Cancel an open or suspended session. -/
def cancel : Session × Except MacpError Unit :=
  if s.state.isTerminal then (s, .error .SessionNotOpen)
  else ({ s with state := .Cancelled, suspendedAtMs := none }, .ok ())

/-- Whether a suspended session has exceeded its cap: the banked total plus the pause
in progress. -/
def suspendCapExceeded (nowMs : Int64) : Bool :=
  match s.suspendedAtMs with
  | some at' =>
    decide (s.effectiveMaxSuspendMs < s.accumulatedSuspendedMs.saturatingAdd (max (nowMs - at') 0))
  | none => decide (s.effectiveMaxSuspendMs < s.accumulatedSuspendedMs)

/-- Whether the session must be expired before anything else is processed. -/
def deadlinePassed (nowMs : Int64) : Bool :=
  match s.state with
  | .Open => decide (s.ttlExpiry < nowMs)
  | .Suspended => s.suspendCapExceeded nowMs
  | _ => false

/-- Expire an open or suspended session, clearing any pause in progress. -/
def expire : Session × Except MacpError Unit :=
  if s.state.isTerminal then (s, .error .SessionNotOpen)
  else ({ s with state := .Expired, suspendedAtMs := none }, .ok ())

/-- The walk of `unsuspendedDeadline`: `cur` is the cursor, `remaining` the unsuspended
time still to be found.  Both the run up to a pause and the jump over it are clamped, so
a pause recorded backwards counts as one of zero width. -/
def deadlineWalk : List (Int64 × Int64) → Int64 → Int64 → Int64
  | [], cur, remaining => cur.saturatingAdd remaining
  | (s, e) :: rest, cur, remaining =>
    let run := max (s.saturatingSub cur) 0
    if remaining ≤ run then cur.saturatingAdd remaining
    else deadlineWalk rest (max (max e s) cur) (remaining.saturatingSub run)

/-- The instant at which `durationMs` of unsuspended time has elapsed since `fromMs`. -/
def unsuspendedDeadline (fromMs durationMs : Int64) : Int64 :=
  deadlineWalk (s.suspensionIntervals.filter fun p => fromMs ≤ p.1) fromMs durationMs

/-- Apply a mode's response. -/
def applyModeResponse : ModeResponse → Session
  | .NoOp => s
  | .PersistState state => { s with modeState := state }
  | .Resolve resolution => { s with state := .Resolved, resolution := some resolution }
  | .PersistAndResolve state resolution =>
    { s with modeState := state, state := .Resolved, resolution := some resolution }

/-! ### What the transitions leave -/

/-- What a session binds when it begins and never changes. -/
structure Bindings where
  sessionId : String
  ttlMs : Int64
  startedAtUnixMs : Int64
  mode : String
  participants : List String
  intent : String
  modeVersion : String
  configurationVersion : String
  policyVersion : String
  contextId : String
  extensions : ExtTreeMap String Bytes
  roots : List Root
  initiatorSender : String
  policyDefinition : Option PolicyDefinition
  semanticsRev : ℕ
  maxSuspendMs : Int64

/-- The bindings of a session. -/
def bindings : Bindings where
  sessionId := s.sessionId
  ttlMs := s.ttlMs
  startedAtUnixMs := s.startedAtUnixMs
  mode := s.mode
  participants := s.participants
  intent := s.intent
  modeVersion := s.modeVersion
  configurationVersion := s.configurationVersion
  policyVersion := s.policyVersion
  contextId := s.contextId
  extensions := s.extensions
  roots := s.roots
  initiatorSender := s.initiatorSender
  policyDefinition := s.policyDefinition
  semanticsRev := s.semanticsRev
  maxSuspendMs := s.maxSuspendMs

@[simp] lemma resume_bindings (nowMs : Int64) : (s.resume nowMs).1.bindings = s.bindings := by
  rw [resume]
  dsimp only
  split_ifs <;> rfl

@[simp] lemma resume_modeState (nowMs : Int64) : (s.resume nowMs).1.modeState = s.modeState := by
  rw [resume]
  dsimp only
  split_ifs <;> rfl

@[simp] lemma suspend_modeState (nowMs : Int64) : (s.suspend nowMs).1.modeState = s.modeState := by
  rw [suspend]
  split_ifs <;> rfl

@[simp] lemma expire_modeState : s.expire.1.modeState = s.modeState := by
  rw [expire]
  split_ifs <;> rfl

section Response

variable (s : Session) (r : ModeResponse)

/-- A response either leaves the state and the resolution alone, or resolves the session. -/
lemma applyModeResponse_state :
    ((s.applyModeResponse r).state = s.state ∧ (s.applyModeResponse r).resolution = s.resolution)
      ∨ ((s.applyModeResponse r).state = .Resolved
          ∧ (s.applyModeResponse r).resolution.isSome = true) := by
  cases r with
  | NoOp => exact .inl ⟨rfl, rfl⟩
  | PersistState state => exact .inl ⟨rfl, rfl⟩
  | Resolve resolution => exact .inr ⟨rfl, rfl⟩
  | PersistAndResolve state resolution => exact .inr ⟨rfl, rfl⟩

@[simp] lemma applyModeResponse_seenMessageIds :
    (s.applyModeResponse r).seenMessageIds = s.seenMessageIds := by
  cases r <;> rfl

@[simp] lemma applyModeResponse_suspendedAtMs :
    (s.applyModeResponse r).suspendedAtMs = s.suspendedAtMs := by
  cases r <;> rfl

@[simp] lemma applyModeResponse_accumulatedSuspendedMs :
    (s.applyModeResponse r).accumulatedSuspendedMs = s.accumulatedSuspendedMs := by
  cases r <;> rfl

@[simp] lemma applyModeResponse_bindings : (s.applyModeResponse r).bindings = s.bindings := by
  cases r <;> rfl

end Response

/-- No deadline is left to pass once a session is terminal. -/
lemma deadlinePassed_of_terminal (s : Session) (h : s.state.isTerminal = true) (nowMs : Int64) :
    s.deadlinePassed nowMs = false := by
  rw [deadlinePassed]
  split
  · rename_i heq
    rw [heq] at h
    cases h
  · rename_i heq
    rw [heq] at h
    cases h
  · rfl

lemma live_of_deadlinePassed (s : Session) {nowMs : Int64} (h : s.deadlinePassed nowMs = true) :
    s.state.isTerminal = false := by
  by_contra hterm
  rw [s.deadlinePassed_of_terminal (by simpa using hterm) nowMs] at h
  cases h

end Session

end MacpRuntime
