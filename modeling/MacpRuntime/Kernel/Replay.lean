import MacpRuntime.Kernel.Start

/-!
Rebuilding a session from recorded history (`macp-modes/src/replay.rs`).

* `RecordedStart`, `ReplayEvent`, `replay`: what a recorder keeps, and the rebuild;
* `replayStart_fromSession`: the record of an accepted start rebuilds it;
* `SessionBegun`: the two ways a session comes into being, accepted or rebuilt;
* `CanonicalBegun`: the same under the canonical contract, which bounds the roster and refuses a
  name that stands in it twice.
-/

namespace MacpRuntime

open Std

/-- The TTL of a non-strict start that named none. -/
def legacyExtensionTtlMs : Int64 := 60000

/-- What was recorded when a start was accepted. -/
structure RecordedStart where
  envelope : Envelope
  acceptedAtMs : Int64
  semanticsRev : ℕ
  maxSuspendMs : Int64
  boundModeVersion : Option String
  policy : Option PolicyDefinition
  strict : Option Bool

/-- The record of a session just accepted; the bound mode version is not on the session. -/
def RecordedStart.fromSession (envelope : Envelope) (session : Session)
    (boundModeVersion : Option String) : RecordedStart where
  envelope := envelope
  acceptedAtMs := session.startedAtUnixMs
  semanticsRev := session.semanticsRev
  maxSuspendMs := session.maxSuspendMs
  boundModeVersion := boundModeVersion
  policy := session.policyDefinition
  strict := none

/-- One recorded event after the start. -/
inductive ReplayEvent where
  | Message (envelope : Envelope) (acceptedAtMs : Int64)
  | Synthetic (envelope : Envelope)
  | Suspended (atMs : Int64)
  | Resumed (atMs : Int64)
  | Cancelled
  | Expired
  deriving DecidableEq, Repr

/-- Whether replay credits participant activity; it does by default. -/
structure ReplayOptions where
  creditParticipantActivity : Bool := true

/-- The payload a recorded start decodes to; a non-strict start may have none. -/
def replayPayload (prost : Prost) (strict : Bool) (payload : Bytes) :
    Except MacpError SessionStartPayload :=
  if payload.isEmpty && !strict then .ok .empty else parseSessionStartPayload prost payload

/-- The TTL a recorded start replays under. -/
def replayTtlMs (strict : Bool) (payload : SessionStartPayload) : Except MacpError Int64 :=
  if !strict && payload.ttlMs == 0 then .ok legacyExtensionTtlMs else extractTtlMs payload

/-- The policy version a recorded start binds. -/
def replayPolicyVersion (policy : Option PolicyDefinition) (payload : SessionStartPayload) :
    String :=
  match policy, payload.policyVersion.isEmpty with
  | some p, true => p.policyId
  | _, _ => payload.policyVersion

/-- The session a recorded start binds, before the mode has seen it. -/
def RecordedStart.bind (start : RecordedStart) (payload : SessionStartPayload) (ttlMs : Int64) :
    Session :=
  { Session.builder start.envelope.sessionId start.envelope.mode start.envelope.sender with
    semanticsRev := start.semanticsRev
    maxSuspendMs := start.maxSuspendMs
    ttlExpiry := (ttlBase start.envelope start.acceptedAtMs).saturatingAdd ttlMs
    ttlMs := ttlMs
    startedAtUnixMs := start.acceptedAtMs
    participants := payload.participants
    intent := payload.intent
    modeVersion := start.boundModeVersion.getD payload.modeVersion
    configurationVersion := payload.configurationVersion
    policyVersion := replayPolicyVersion start.policy payload
    contextId := payload.contextId
    extensions := payload.extensions
    roots := payload.roots
    policyDefinition := start.policy }

/-- The session a recorded start began, before any later event. -/
def replayStart (prost : Prost) (start : RecordedStart) (mode : Mode) :
    Except MacpError Session := do
  let env := start.envelope
  let strict := start.strict.getD (requiresStrictSessionStart env.mode)
  let payload ← replayPayload prost strict env.payload
  validateIfStrict strict env.mode payload
  let ttlMs ← replayTtlMs strict payload
  let session := start.bind payload ttlMs
  let response ← mode.onSessionStart session env
  return { session with
    seenMessageIds := session.seenMessageIds.insert env.messageId }.applyModeResponse response

/-- Take a recorded id's dedup slot; an empty id takes none. -/
def takeSlot (session : Session) (messageId : String) : Session :=
  if messageId.isEmpty then session
  else { session with seenMessageIds := session.seenMessageIds.insert messageId }

/-- Re-drive one recorded envelope.  On a session that is no longer open only the dedup slot
is taken. -/
def applyEnvelope (session : Session) (envelope : Envelope) (acceptedAtMs : Int64) (credit : Bool)
    (mode : Mode) : Except MacpError Session :=
  if session.state ≠ .Open then .ok (takeSlot session envelope.messageId)
  else
    match mode.authorizeSender session envelope with
    | .error e => .error e
    | .ok _ =>
      match mode.onMessageAt session envelope ⟨acceptedAtMs⟩ with
      | .error e => .error e
      | .ok response =>
        let session := session.applyModeResponse response
        let session :=
          if credit then session.recordParticipantActivity envelope.sender acceptedAtMs
          else session
        .ok (takeSlot session envelope.messageId)

/-- Apply one recorded event.  The results of the lifecycle calls are dropped, as they are in
the source; expiry sets the state and nothing else. -/
def applyEvent (mode : Mode) (opts : ReplayOptions) (session : Session) :
    ReplayEvent → Except MacpError Session
  | .Message envelope acceptedAtMs =>
    applyEnvelope session envelope acceptedAtMs opts.creditParticipantActivity mode
  | .Synthetic envelope => applyEnvelope session envelope envelope.timestampUnixMs false mode
  | .Suspended atMs => .ok (session.suspend atMs).1
  | .Resumed atMs => .ok (session.resume atMs).1
  | .Cancelled => .ok session.cancel.1
  | .Expired => .ok { session with state := .Expired }

/-- Apply recorded events in order. -/
def applyEvents (mode : Mode) (opts : ReplayOptions) (session : Session)
    (events : List ReplayEvent) : Except MacpError Session :=
  events.foldlM (applyEvent mode opts) session

/-- Rebuild the session a start began, then apply the events in order. -/
def replay (prost : Prost) (start : RecordedStart) (events : List ReplayEvent) (mode : Mode)
    (opts : ReplayOptions) : Except MacpError Session := do
  let session ← replayStart prost start mode
  applyEvents mode opts session events

/-! ### The beginning of a session -/

variable {mode : Mode} {prost : Prost} {payload : SessionStartPayload} {s : Session}

/-- A rebuilt start is its bound session with the start's id taken and the mode's response
applied. -/
lemma replayStart_eq_ok {start : RecordedStart} {session : Session}
    (h : replayStart prost start mode = .ok session) :
    ∃ payload ttlMs response,
      mode.onSessionStart (start.bind payload ttlMs) start.envelope = .ok response
      ∧ session = { start.bind payload ttlMs with
          seenMessageIds := (∅ : ExtTreeSet String).insert start.envelope.messageId
        }.applyModeResponse response := by
  simp only [replayStart, Except.bind_eq_ok_iff, Except.pure_eq_ok] at h
  obtain ⟨payload, _, _, _, ttlMs, _, response, hresp, hs⟩ := h
  cases hs
  exact ⟨payload, ttlMs, response, hresp, rfl⟩

/-- A payload that parsed is decoded again. -/
lemma replayPayload_of_parse {bytes : Bytes}
    (h : parseSessionStartPayload prost bytes = .ok payload) (strict : Bool) :
    replayPayload prost strict bytes = .ok payload := by
  have hne : bytes.isEmpty = false := by
    by_contra hempty
    rw [parseSessionStartPayload, if_pos (by simpa using hempty)] at h
    cases h
  rw [replayPayload, hne, Bool.false_and, if_neg (by decide), h]

/-- A TTL that was accepted is replayed as it was. -/
lemma replayTtlMs_of_extract {ttlMs : Int64} (h : extractTtlMs payload = .ok ttlMs)
    (strict : Bool) : replayTtlMs strict payload = .ok ttlMs := by
  obtain ⟨rfl, hpos, _⟩ := extractTtlMs_eq_ok h
  have hne : (payload.ttlMs == 0) = false := by
    rw [beq_eq_false_iff_ne]
    intro h0
    rw [h0] at hpos
    exact absurd hpos (by decide)
  rw [replayTtlMs, hne, Bool.and_false, if_neg (by decide), h]

/-- **A start accepted under the default strictness is rebuilt from its record.** -/
theorem replayStart_fromSession {env : Envelope} {nowMs : Int64} {policy : Option PolicyDefinition}
    {opts : StartOptions} {v : ValidatedStart} (hstrict : opts.strict = none)
    (hv : validateSessionStart prost env nowMs opts = .ok v)
    (hs : v.accept env mode policy = .ok s) :
    replayStart prost (.fromSession env s v.boundModeVersion) mode = .ok s := by
  obtain ⟨_, hparse, hcanon, httl, hexp, hat⟩ := validateSessionStart_eq_ok hv
  rw [hstrict, Option.getD_none] at hcanon
  obtain ⟨version, response, hversion, hresp, _, hs⟩ := ValidatedStart.accept_eq_ok hs
  have hpol : replayPolicyVersion policy v.payload = version := by
    rw [ValidatedStart.policyVersion_eq_ok hversion]
    unfold replayPolicyVersion
    cases policy <;> cases v.payload.policyVersion.isEmpty <;> rfl
  have hbind : (RecordedStart.fromSession env s v.boundModeVersion).bind v.payload v.ttlMs
      = v.bind env version policy := by
    have hcopy : s.startedAtUnixMs = v.acceptedAtMs ∧ s.semanticsRev = currentSemanticsRev
        ∧ s.maxSuspendMs = v.maxSuspendMs ∧ s.policyDefinition = policy := by
      rw [hs]
      cases response <;> exact ⟨rfl, rfl, rfl, rfl⟩
    obtain ⟨h1, h2, h3, h4⟩ := hcopy
    simp only [RecordedStart.bind, RecordedStart.fromSession, ValidatedStart.bind, h1, h2, h3, h4,
      hpol, hexp, hat]
  simp only [replayStart, RecordedStart.fromSession, Option.getD_none,
    replayPayload_of_parse hparse, Except.ok_bind, hcanon, replayTtlMs_of_extract httl]
  rw [← RecordedStart.fromSession, hbind, hresp, Except.ok_bind, hs]
  rfl

/-- The two ways a session comes into being. -/
inductive SessionBegun (prost : Prost) (mode : Mode) : Session → Prop
  | accepted {env : Envelope} {nowMs : Int64} {policy : Option PolicyDefinition}
      {opts : StartOptions} {session : Session}
      (h : acceptSessionStart prost env nowMs mode policy opts = .ok session) :
      SessionBegun prost mode session
  | rebuilt {start : RecordedStart} {session : Session}
      (h : replayStart prost start mode = .ok session) : SessionBegun prost mode session

/-- A session as bound, before its mode has seen it. -/
structure Session.Pristine (s : Session) : Prop where
  open_state : s.state = .Open
  resolution : s.resolution = none
  suspendedAt : s.suspendedAtMs = none
  accumulated : s.accumulatedSuspendedMs = 0
  intervals : s.suspensionIntervals = []

/-- However it began, a session is a pristine one with the mode's response to its start
applied. -/
lemma SessionBegun.exists_start (h : SessionBegun prost mode s) :
    ∃ (bound : Session) (env : Envelope) (response : ModeResponse),
      bound.Pristine ∧ mode.onSessionStart bound env = .ok response
      ∧ s = { bound with
          seenMessageIds := (∅ : ExtTreeSet String).insert env.messageId }.applyModeResponse
            response := by
  cases h with
  | accepted h =>
    obtain ⟨v, _, hv⟩ := acceptSessionStart_eq_ok h
    obtain ⟨version, response, _, hresp, _, hs⟩ := ValidatedStart.accept_eq_ok hv
    exact ⟨_, _, response, ⟨rfl, rfl, rfl, rfl, rfl⟩, hresp, hs⟩
  | rebuilt h =>
    obtain ⟨payload, ttlMs, response, hresp, hs⟩ := replayStart_eq_ok h
    exact ⟨_, _, response, ⟨rfl, rfl, rfl, rfl, rfl⟩, hresp, hs⟩

/-- A session with no pause behind it or in progress. -/
structure Session.Fresh (s : Session) : Prop where
  suspendedAt : s.suspendedAtMs = none
  accumulated : s.accumulatedSuspendedMs = 0
  intervals : s.suspensionIntervals = []
  not_suspended : s.state ≠ .Suspended

lemma Session.Fresh.applyModeResponse (h : s.Fresh) (r : ModeResponse) :
    (s.applyModeResponse r).Fresh := by
  obtain ⟨h1, h2, h3, h4⟩ := h
  cases r with
  | NoOp => exact ⟨h1, h2, h3, h4⟩
  | PersistState state => exact ⟨h1, h2, h3, h4⟩
  | Resolve resolution => exact ⟨h1, h2, h3, by simp [Session.applyModeResponse]⟩
  | PersistAndResolve state resolution => exact ⟨h1, h2, h3, by simp [Session.applyModeResponse]⟩

/-- However it began, a session begins with no pause. -/
lemma SessionBegun.fresh (h : SessionBegun prost mode s) : s.Fresh := by
  obtain ⟨bound, env, response, hb, _, rfl⟩ := h.exists_start
  have hfresh : Session.Fresh { bound with
      seenMessageIds := (∅ : ExtTreeSet String).insert env.messageId } :=
    ⟨hb.suspendedAt, hb.accumulated, hb.intervals, by simp [hb.open_state]⟩
  exact hfresh.applyModeResponse response

/-! ### Canonical starts -/

/-- A session that was accepted or rebuilt under the canonical contract, as every session of a
standards-track mode is by default. -/
inductive CanonicalBegun (prost : Prost) (mode : Mode) : Session → Prop
  | accepted {env : Envelope} {nowMs : Int64} {policy : Option PolicyDefinition}
      {opts : StartOptions} {session : Session}
      (h : acceptSessionStart prost env nowMs mode policy opts = .ok session)
      (hstrict : opts.strict.getD (requiresStrictSessionStart env.mode) = true) :
      CanonicalBegun prost mode session
  | rebuilt {start : RecordedStart} {session : Session}
      (h : replayStart prost start mode = .ok session)
      (hstrict : start.strict.getD (requiresStrictSessionStart start.envelope.mode) = true) :
      CanonicalBegun prost mode session

lemma CanonicalBegun.begun (h : CanonicalBegun prost mode s) : SessionBegun prost mode s := by
  cases h with
  | accepted h _ => exact .accepted h
  | rebuilt h _ => exact .rebuilt h

/-- A roster that was scanned has no empty name and no name twice, nor one of those seen. -/
lemma participantsValid_spec {names : List String} {seen : ExtTreeSet String}
    (h : participantsValid names seen = true) :
    (∀ p ∈ names, trim p ∉ seen ∧ (trim p).isEmpty = false) ∧ (names.map trim).Nodup := by
  induction names generalizing seen with
  | nil => simp
  | cons p rest ih =>
    rw [participantsValid] at h
    split_ifs at h with hbad
    rw [Bool.or_eq_true, not_or] at hbad
    obtain ⟨hrest, hnodup⟩ := ih h
    have hp : trim p ∉ seen ∧ (trim p).isEmpty = false :=
      ⟨by simpa using hbad.2, by simpa using hbad.1⟩
    refine ⟨?_, ?_⟩
    · intro q hq
      rcases List.mem_cons.mp hq with rfl | hq
      · exact hp
      · refine ⟨fun hmem => (hrest q hq).1 ?_, (hrest q hq).2⟩
        exact ExtTreeSet.mem_insert.mpr (.inr hmem)
    · rw [List.map_cons, List.nodup_cons]
      refine ⟨fun hmem => ?_, hnodup⟩
      obtain ⟨q, hq, heq⟩ := List.mem_map.mp hmem
      refine (hrest q hq).1 (ExtTreeSet.mem_insert.mpr (.inl ?_))
      rw [heq]
      exact Std.ReflCmp.compare_self

/-- The roster a payload names, if it met the canonical contract. -/
lemma roster_of_validate {mode : String}
    (h : validateCanonicalSessionStartPayloadForMode mode payload = .ok ()) :
    payload.participants.length ≤ maxParticipants ∧ payload.participants.Nodup
      ∧ ∀ p ∈ payload.participants, p.isEmpty = false := by
  unfold validateCanonicalSessionStartPayloadForMode validateCanonicalStart at h
  split at h
  · cases h
  · split_ifs at h with hversions hempty hmany hscan hcap
    have hvalid : participantsValid payload.participants ∅ = true := by simpa using hscan
    obtain ⟨hnames, hnodup⟩ := participantsValid_spec hvalid
    refine ⟨by omega, hnodup.of_map, fun p hp => ?_⟩
    by_contra hblank
    have hnone : p = "" := by simpa using hblank
    have htrim := (hnames p hp).2
    rw [hnone] at htrim
    exact absurd htrim (by decide)

lemma applyModeResponse_participants (s : Session) (r : ModeResponse) :
    (s.applyModeResponse r).participants = s.participants :=
  congrArg Session.Bindings.participants (Session.applyModeResponse_bindings s r)

/-- **The roster of a canonical session** is bounded, and its names are distinct and not empty. -/
theorem CanonicalBegun.roster (h : CanonicalBegun prost mode s) :
    s.participants.length ≤ maxParticipants ∧ s.participants.Nodup
      ∧ ∀ p ∈ s.participants, p.isEmpty = false := by
  cases h with
  | accepted h hstrict =>
    obtain ⟨v, hv, haccept⟩ := acceptSessionStart_eq_ok h
    obtain ⟨-, -, hcanon, -⟩ := validateSessionStart_eq_ok hv
    rw [validateIfStrict, if_pos hstrict] at hcanon
    obtain ⟨version, response, -, -, -, rfl⟩ := ValidatedStart.accept_eq_ok haccept
    rw [applyModeResponse_participants]
    exact roster_of_validate hcanon
  | @rebuilt start _ h hstrict =>
    simp only [replayStart, Except.bind_eq_ok_iff, Except.pure_eq_ok] at h
    obtain ⟨payload, -, _, hcanon, ttlMs, -, response, -, hs⟩ := h
    cases hs
    rw [validateIfStrict, if_pos hstrict] at hcanon
    rw [applyModeResponse_participants]
    exact roster_of_validate hcanon

end MacpRuntime
