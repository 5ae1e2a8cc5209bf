import MacpRuntime.Kernel.Replay

/-!
What-if replay (`macp-modes/src/what_if.rs`): a recorded session driven again under a candidate
policy, side by side with the replay under its own.  `applyEventInPlace` is `apply_event` on a
session it changes in place, so that what a refused event leaves behind is part of the model: it
leaves the session as it was (`applyEventInPlace_eq`).
-/

namespace MacpRuntime

/-- `MacpError::error_code`. -/
def MacpError.errorCode : MacpError → String
  | .InvalidMacpVersion => "UNSUPPORTED_PROTOCOL_VERSION"
  | .InvalidEnvelope => "INVALID_ENVELOPE"
  | .SessionAlreadyExists => "SESSION_ALREADY_EXISTS"
  | .UnknownSession => "SESSION_NOT_FOUND"
  | .SessionNotOpen => "SESSION_NOT_OPEN"
  | .TtlExpired => "SESSION_NOT_OPEN"
  | .InvalidTtl => "INVALID_ENVELOPE"
  | .UnknownMode => "MODE_NOT_SUPPORTED"
  | .InvalidModeState => "INVALID_ENVELOPE"
  | .InvalidPayload => "INVALID_ENVELOPE"
  | .Forbidden => "FORBIDDEN"
  | .Unauthenticated => "UNAUTHENTICATED"
  | .DuplicateMessage => "DUPLICATE_MESSAGE"
  | .PayloadTooLarge => "PAYLOAD_TOO_LARGE"
  | .RateLimited => "RATE_LIMITED"
  | .StorageFailed => "INTERNAL_ERROR"
  | .InvalidSessionId => "INVALID_SESSION_ID"
  | .UnknownPolicyVersion => "UNKNOWN_POLICY_VERSION"
  | .PolicyDenied _ => "POLICY_DENIED"
  | .InvalidPolicyDefinition => "INVALID_POLICY_DEFINITION"
  | .RegistryReadOnly => "REGISTRY_READ_ONLY"
  | .InvalidRequest => "INVALID_REQUEST"
  | .StreamLagged => "STREAM_LAGGED"
  | .AgentNotFound => "AGENT_NOT_FOUND"
  | .HistoryUnavailable => "HISTORY_UNAVAILABLE"
  | .ReceiptUnavailable => "RECEIPT_UNAVAILABLE"

/-- The reasons of a denial; no other error has any. -/
def MacpError.denyReasons : MacpError → List DenyReason
  | .PolicyDenied reasons => reasons
  | _ => []

/-- The envelope of an event that is one. -/
def ReplayEvent.envelope? : ReplayEvent → Option Envelope
  | .Message envelope _ => some envelope
  | .Synthetic envelope => some envelope
  | _ => none

namespace WhatIf

/-! ### Events in place -/

variable (session : Session)

/-- The mode's checks come first; the session changes only after the last of them. -/
def applyEnvelopeInPlace (envelope : Envelope) (acceptedAtMs : Int64)
    (credit : Bool) (mode : Mode) : Session × Except MacpError Unit :=
  if session.state ≠ .Open then (takeSlot session envelope.messageId, .ok ())
  else
    match mode.authorizeSender session envelope with
    | .error e => (session, .error e)
    | .ok _ =>
      match mode.onMessageAt session envelope ⟨acceptedAtMs⟩ with
      | .error e => (session, .error e)
      | .ok response =>
        let session := session.applyModeResponse response
        let session :=
          if credit then session.recordParticipantActivity envelope.sender acceptedAtMs
          else session
        (takeSlot session envelope.messageId, .ok ())

variable (mode : Mode) (opts : ReplayOptions)

/-- `apply_event`: the session as it is left, and the result. -/
def applyEventInPlace (session : Session) : ReplayEvent → Session × Except MacpError Unit
  | .Message envelope acceptedAtMs =>
    applyEnvelopeInPlace session envelope acceptedAtMs opts.creditParticipantActivity mode
  | .Synthetic envelope =>
    applyEnvelopeInPlace session envelope envelope.timestampUnixMs false mode
  | .Suspended atMs => ((session.suspend atMs).1, .ok ())
  | .Resumed atMs => ((session.resume atMs).1, .ok ())
  | .Cancelled => (session.cancel.1, .ok ())
  | .Expired => ({ session with state := .Expired }, .ok ())

/-- What an event leaves in place, from what it returns: a refused event leaves the session as it
was. -/
def leaving : Except MacpError Session → Session × Except MacpError Unit
  | .ok session' => (session', .ok ())
  | .error e => (session, .error e)

lemma applyEnvelopeInPlace_eq (envelope : Envelope) (acceptedAtMs : Int64)
    (credit : Bool) (mode : Mode) :
    applyEnvelopeInPlace session envelope acceptedAtMs credit mode
      = leaving session (applyEnvelope session envelope acceptedAtMs credit mode) := by
  unfold applyEnvelopeInPlace applyEnvelope
  by_cases hstate : session.state ≠ .Open
  · rw [if_pos hstate, if_pos hstate]
    rfl
  · rw [if_neg hstate, if_neg hstate]
    cases mode.authorizeSender session envelope with
    | error e => rfl
    | ok _ => cases mode.onMessageAt session envelope ⟨acceptedAtMs⟩ <;> rfl

lemma applyEventInPlace_eq (session : Session)
    (event : ReplayEvent) :
    applyEventInPlace mode opts session event
      = leaving session (applyEvent mode opts session event) := by
  cases event with
  | Message envelope acceptedAtMs => exact applyEnvelopeInPlace_eq ..
  | Synthetic envelope => exact applyEnvelopeInPlace_eq ..
  | _ => rfl

/-! ### Reports -/

/-- Where in the history something happened. -/
inductive HistoryPoint where
  | SessionStart
  | Event (index : ℕ)
  deriving DecidableEq, Repr

/-- What one replay did with one entry. -/
inductive EntryOutcome where
  | Applied (state : SessionState)
  | NotOpen
  | Refused (code : String) (reasons : List DenyReason)
  | NoSession
  deriving DecidableEq, Repr

/-- A refusal with its code and reasons. -/
def EntryOutcome.refused (e : MacpError) : EntryOutcome := .Refused e.errorCode e.denyReasons

/-- One entry, as each replay handled it. -/
structure EntryDiff where
  point : HistoryPoint
  messageId : Option String
  messageType : Option String
  recorded : EntryOutcome
  candidate : EntryOutcome
  deriving DecidableEq, Repr

/-- Whether the two outcomes differ. -/
def EntryDiff.diverges (entry : EntryDiff) : Bool := entry.recorded != entry.candidate

/-- The envelope that resolved a session. -/
structure ResolvedBy where
  point : HistoryPoint
  messageId : String
  messageType : String
  deriving DecidableEq, Repr

/-- How one replay ended. -/
structure Outcome where
  state : Option SessionState
  resolution : Option Bytes
  resolvedBy : Option ResolvedBy
  deriving DecidableEq, Repr

/-- The outcome of a session. -/
def Outcome.of (session : Option Session) (resolvedBy : Option ResolvedBy) : Outcome where
  state := session.map (·.state)
  resolution := session.bind (·.resolution)
  resolvedBy := resolvedBy

/-- A policy denial that the candidate raised. -/
structure Denial where
  point : HistoryPoint
  messageId : Option String
  reasons : List DenyReason
  deriving DecidableEq, Repr

/-- The report of a replay. -/
structure WhatIfReport where
  candidatePolicyId : String
  recordedPolicyId : Option String
  recorded : Outcome
  candidate : Outcome
  firstDivergence : Option HistoryPoint
  denials : List Denial
  entries : List EntryDiff
  candidateSession : Option Session

/-- The final state, the resolution or what resolved the session is another one. -/
def WhatIfReport.outcomeChanged (report : WhatIfReport) : Bool :=
  report.recorded != report.candidate

/-! ### The two replays -/

/-- One event on one session, classified. -/
def step (session : Session) (event : ReplayEvent) : Session × Except MacpError EntryOutcome :=
  let notOpen := event.envelope?.isSome && session.state != .Open
  match applyEventInPlace mode opts session event with
  | (session, .error e) => (session, .error e)
  | (session, .ok _) => (session, .ok (if notOpen then .NotOpen else .Applied session.state))

/-- The first envelope that is applied and leaves the session resolved is kept. -/
def noteResolution (outcome : EntryOutcome) (point : HistoryPoint)
    (envelope : Option Envelope) (resolvedBy : Option ResolvedBy) : Option ResolvedBy :=
  if resolvedBy.isSome || session.state != .Resolved then resolvedBy
  else
    match outcome, envelope with
    | .Applied _, some env => some ⟨point, env.messageId, env.messageType⟩
    | _, _ => resolvedBy

/-- A denial is added for a policy's refusal and for no other. -/
def pushDenial (denials : List Denial) (point : HistoryPoint) (envelope : Envelope) :
    MacpError → List Denial
  | .PolicyDenied reasons => denials ++ [⟨point, some envelope.messageId, reasons⟩]
  | _ => denials

/-- The two replays so far, and what was noted of them. -/
structure Progress where
  recorded : Session
  candidate : Option Session
  recordedBy : Option ResolvedBy
  candidateBy : Option ResolvedBy
  denials : List Denial
  entries : List EntryDiff

/-- The candidate's side of one event: its outcome, and the progress without the entry. -/
def observeCandidate (point : HistoryPoint)
    (event : ReplayEvent) (progress : Progress) : EntryOutcome × Progress :=
  match progress.candidate with
  | none => (.NoSession, progress)
  | some session =>
    match step mode opts session event with
    | (session, .ok outcome) =>
      (outcome, { progress with
        candidate := some session
        candidateBy :=
          noteResolution session outcome point event.envelope? progress.candidateBy })
    | (session, .error e) =>
      (.refused e, { progress with
        candidate := some session
        denials :=
          match event.envelope? with
          | some env => pushDenial progress.denials point env e
          | none => progress.denials })

/-- One event in both replays; only the recorded one can fail. -/
def observe (index : ℕ) (event : ReplayEvent) (progress : Progress) : Except MacpError Progress :=
  let point := HistoryPoint.Event index
  match step mode opts progress.recorded event with
  | (_, .error e) => .error e
  | (session, .ok outcome) =>
    let seen := observeCandidate mode opts point event { progress with
      recorded := session
      recordedBy :=
        noteResolution session outcome point event.envelope? progress.recordedBy }
    .ok { seen.2 with
      entries := seen.2.entries ++ [⟨point, event.envelope?.map (·.messageId),
        event.envelope?.map (·.messageType), outcome, seen.1⟩] }

/-- The events in order, counted from the given index. -/
def observeAll (mode : Mode) (opts : ReplayOptions) :
    ℕ → List ReplayEvent → Progress → Except MacpError Progress
  | _, [], progress => .ok progress
  | index, event :: events, progress =>
    match observe mode opts index event progress with
    | .error e => .error e
    | .ok progress => observeAll mode opts (index + 1) events progress

/-- Both replays begin.  The candidate's session keeps the recorded policy version. -/
def begin (prost : Prost) (start : RecordedStart) (mode : Mode) (candidate : PolicyDefinition)
    (recorded : Session) : Progress :=
  let entry (outcome : EntryOutcome) : EntryDiff :=
    ⟨.SessionStart, some start.envelope.messageId, some start.envelope.messageType,
      .Applied recorded.state, outcome⟩
  match replayStart prost { start with policy := some candidate } mode with
  | .ok session =>
    let session := { session with policyVersion := recorded.policyVersion }
    ⟨recorded, some session, none, none, [], [entry (.Applied session.state)]⟩
  | .error e =>
    ⟨recorded, none, none, none, pushDenial [] .SessionStart start.envelope e,
      [entry (.refused e)]⟩

/-- What is reported of the two replays when they end. -/
def Progress.report (progress : Progress) (start : RecordedStart) (candidate : PolicyDefinition) :
    WhatIfReport where
  candidatePolicyId := candidate.policyId
  recordedPolicyId := start.policy.map (·.policyId)
  recorded := .of (some progress.recorded) progress.recordedBy
  candidate := .of progress.candidate progress.candidateBy
  firstDivergence := (progress.entries.find? (·.diverges)).map (·.point)
  denials := progress.denials
  entries := progress.entries
  candidateSession := progress.candidate

/-- `replay_under_policy`. -/
def replayUnderPolicy (prost : Prost) (start : RecordedStart) (events : List ReplayEvent)
    (mode : Mode) (opts : ReplayOptions) (candidate : PolicyDefinition) :
    Except MacpError WhatIfReport := do
  let recorded ← replayStart prost start mode
  let progress ← observeAll mode opts 0 events (begin prost start mode candidate recorded)
  return progress.report start candidate

/-! ### What one event does -/

section Events

variable {mode : Mode} {opts : ReplayOptions}

/-- How an event that was applied is classified. -/
def classify (session : Session) (event : ReplayEvent) (session' : Session) : EntryOutcome :=
  if event.envelope?.isSome && session.state != .Open then .NotOpen else .Applied session'.state

variable {event : ReplayEvent} {session : Session} {index : ℕ} {progress : Progress}

lemma step_of_ok {session' : Session} (h : applyEvent mode opts session event = .ok session') :
    step mode opts session event = (session', .ok (classify session event session')) := by
  rw [step, applyEventInPlace_eq, h]
  rfl

lemma step_of_error {e : MacpError} (h : applyEvent mode opts session event = .error e) :
    step mode opts session event = (session, .error e) := by
  rw [step, applyEventInPlace_eq, h]
  rfl

/-- The entry of an event. -/
def entryOf (index : ℕ) (event : ReplayEvent) (recorded candidate : EntryOutcome) : EntryDiff :=
  ⟨.Event index, event.envelope?.map (·.messageId), event.envelope?.map (·.messageType), recorded,
    candidate⟩

/-- The progress once the recorded replay has taken an event. -/
def Progress.record (progress : Progress) (index : ℕ) (event : ReplayEvent) (session : Session) :
    Progress :=
  { progress with
    recorded := session
    recordedBy := noteResolution session (classify progress.recorded event session)
      (.Event index) event.envelope? progress.recordedBy }

/-- The candidate's side of an event that the recorded replay takes. -/
def Progress.seen (progress : Progress) (mode : Mode) (opts : ReplayOptions) (index : ℕ)
    (event : ReplayEvent) (session : Session) : EntryOutcome × Progress :=
  observeCandidate mode opts (.Event index) event (progress.record index event session)

lemma observe_of_ok (h : applyEvent mode opts progress.recorded event = .ok session) :
    observe mode opts index event progress
      = .ok { (progress.seen mode opts index event session).2 with
          entries := progress.entries ++ [entryOf index event
            (classify progress.recorded event session)
            (progress.seen mode opts index event session).1] } := by
  have hentries : (progress.seen mode opts index event session).2.entries = progress.entries := by
    unfold Progress.seen observeCandidate
    split
    · rfl
    · split <;> rfl
  rw [← hentries, observe, step_of_ok h]
  rfl

lemma observe_of_error {e : MacpError}
    (h : applyEvent mode opts progress.recorded event = .error e) :
    observe mode opts index event progress = .error e := by
  rw [observe, step_of_error h]

/-- An observation was made of an event that the recorded replay takes. -/
lemma observe_eq_ok {progress' : Progress}
    (h : observe mode opts index event progress = .ok progress') :
    ∃ session, applyEvent mode opts progress.recorded event = .ok session
      ∧ progress' = { (progress.seen mode opts index event session).2 with
          entries := progress.entries ++ [entryOf index event
            (classify progress.recorded event session)
            (progress.seen mode opts index event session).1] } := by
  cases hs : applyEvent mode opts progress.recorded event with
  | error e =>
    rw [observe_of_error hs] at h
    cases h
  | ok session =>
    rw [observe_of_ok hs] at h
    exact ⟨session, rfl, (Except.ok.inj h).symm⟩

/-- The recorded session of an observation is the one the replay has. -/
lemma seen_recorded (index : ℕ) (event : ReplayEvent) (progress : Progress) (session : Session) :
    (progress.seen mode opts index event session).2.recorded = session := by
  unfold Progress.seen observeCandidate
  split
  · rfl
  · split <;> rfl

/-- An event that the candidate refuses leaves its session as it was. -/
lemma seen_refused {code : String} {reasons : List DenyReason}
    (h : (progress.seen mode opts index event session).1 = .Refused code reasons) :
    (progress.seen mode opts index event session).2.candidate = progress.candidate := by
  unfold Progress.seen observeCandidate Progress.record at h ⊢
  cases hcandidate : progress.candidate with
  | none => rfl
  | some cand =>
    simp only [hcandidate] at h ⊢
    cases happly : applyEvent mode opts cand event with
    | error e => rw [step_of_error happly]
    | ok cand' =>
      rw [step_of_ok happly] at h
      unfold classify at h
      split_ifs at h

end Events

/-! ### Whole histories -/

section Histories

variable {mode : Mode} {opts : ReplayOptions}

/-- The recorded side of the two replays is the replay, and fails as it does. -/
lemma observeAll_recorded (index : ℕ) (events : List ReplayEvent) (progress : Progress) :
    (observeAll mode opts index events progress).map (·.recorded)
      = applyEvents mode opts progress.recorded events := by
  induction events generalizing index progress with
  | nil => rfl
  | cons event events ih =>
    rw [applyEvents, List.foldlM_cons, observeAll]
    cases h : applyEvent mode opts progress.recorded event with
    | error e =>
      rw [observe_of_error h]
      rfl
    | ok session =>
      rw [observe_of_ok h, Except.ok_bind]
      refine (ih (index + 1) _).trans ?_
      rw [← applyEvents]
      exact congrArg (applyEvents mode opts · events) (seen_recorded ..)

/-- What every observation keeps, a whole history keeps. -/
lemma observeAll_invariant {P : Progress → Prop} {events : List ReplayEvent} {index : ℕ}
    {progress progress' : Progress}
    (hstep : ∀ {index event p p'}, observe mode opts index event p = .ok p' → P p → P p')
    (h : observeAll mode opts index events progress = .ok progress') (hP : P progress) :
    P progress' := by
  induction events generalizing index progress with
  | nil =>
    cases h
    exact hP
  | cons event events ih =>
    rw [observeAll] at h
    split at h
    · cases h
    · rename_i next hnext
      exact ih h (hstep hnext hP)

/-- A longer history: the same replays, and then the rest. -/
lemma observeAll_append (index : ℕ) (events later : List ReplayEvent) (progress : Progress) :
    observeAll mode opts index (events ++ later) progress
      = (observeAll mode opts index events progress).bind
          (observeAll mode opts (index + events.length) later) := by
  induction events generalizing index progress with
  | nil => rfl
  | cons e events ih =>
    rw [List.cons_append, observeAll, observeAll]
    cases observe mode opts index e progress with
    | error e => rfl
    | ok progress' =>
      rw [List.length_cons, Nat.add_comm events.length 1, ← Nat.add_assoc]
      exact ih (index + 1) progress'

lemma observeAll_singleton (index : ℕ) (event : ReplayEvent) (progress : Progress) :
    observeAll mode opts index [event] progress = observe mode opts index event progress := by
  rw [observeAll]
  cases observe mode opts index event progress <;> rfl

end Histories

end WhatIf

end MacpRuntime
