import MacpRuntime.Handoff.Implicit
import MacpRuntime.Kernel.LiveReplay
import MacpRuntime.Server.Wire
import MacpRuntime.Server.Writes

/-!
Crash consistency of the server kernel: whatever happened and whichever appends failed, replaying
the durable log rebuilds the in-memory session.

* `ImageOf`: what replay rebuilds of a session: everything but its activity, and of an expired
  session but its pause in progress;
* `Consistent.write`: every write keeps a log that replays to an image of the session;
* `crash_consistency`: **at every point of every run the durable log replays to the in-memory
  session**, as long as no clock reading is zero, which the log takes for a clock that was not
  recorded: `zero_clock_replays_otherwise`.
-/

namespace MacpRuntime

/-- The agreement of a rebuilt session with the one in memory. -/
structure Session.Agrees (r s : Session) : Prop where
  state : r.state = s.state
  modeState : r.modeState = s.modeState
  resolution : r.resolution = s.resolution
  seenMessageIds : r.seenMessageIds = s.seenMessageIds
  ttlExpiry : r.ttlExpiry = s.ttlExpiry
  accumulatedSuspendedMs : r.accumulatedSuspendedMs = s.accumulatedSuspendedMs
  suspensionIntervals : r.suspensionIntervals = s.suspensionIntervals

/-- The modes keep to what the log records, and the policies to what a checkpoint records. -/
structure Runtime.Sound (rt : Runtime) : Prop where
  modes : ∀ name mode, rt.registries.modes.instantiate name = .ok mode → mode.LogFaithful
  policies : ∀ policyId policy, rt.registries.policies.get policyId = some policy →
    rt.serde.Exact policy.rules

/-- What replay rebuilds of a session. -/
def ImageOf (r s : Session) : Prop :=
  r = s.forgetActivity
    ∨ s.state = .Expired ∧ ∃ at', r = { s.forgetActivity with suspendedAtMs := at' }

lemma ImageOf.agrees {r s : Session} (h : ImageOf r s) : r.Agrees s := by
  obtain rfl | ⟨_, at', rfl⟩ := h
  · exact ⟨rfl, rfl, rfl, rfl, rfl, rfl, rfl⟩
  · exact ⟨rfl, rfl, rfl, rfl, rfl, rfl, rfl⟩

/-- What the bindings of a session allow. -/
structure Session.Bound (rt : Runtime) (sessionId : String) (s : Session) : Prop where
  sessionId_eq : s.sessionId = sessionId
  ttl_pos : 0 < s.ttlMs
  rev : 1 ≤ s.semanticsRev
  mode : ∃ mode, rt.registries.modes.instantiate s.mode = .ok mode
  policy : ∃ policy, s.policyDefinition = some policy ∧ rt.serde.Exact policy.rules

/-- The durable log replays to an image of the session. -/
structure Consistent (rt : Runtime) (sessionId : String) (p : Session × List LogEntry) : Prop where
  bound : p.1.Bound rt sessionId
  rooted : Rooted rt.serde rt.registries.modes sessionId p.2
  replayed : ∃ r, rt.replayLog sessionId p.2 = .ok r ∧ ImageOf r p.1

section Writes

variable {rt : Runtime} {sessionId : String}
  {s : Session} {entry : LogEntry} {log : List LogEntry} {registry : ModeRegistry}
  {env : Envelope} {mode : Mode} {v : ValidatedStart} {acceptedAt : Int64}
  {policy : PolicyDefinition}

lemma Session.Bound.restorable (h : s.Bound rt sessionId) : s.Restorable rt.serde sessionId :=
  ⟨h.sessionId_eq, h.ttl_pos, h.policy⟩

lemma Session.Bound.of_bindings {s' : Session} (h : s.Bound rt sessionId)
    (hbind : s'.bindings = s.bindings) : s'.Bound rt sessionId where
  sessionId_eq := (h.restorable.of_bindings hbind).sessionId_eq
  ttl_pos := (h.restorable.of_bindings hbind).ttl_pos
  rev := h.rev.trans_eq (congrArg (·.semanticsRev) hbind).symm
  mode := by
    obtain ⟨mode, hmode⟩ := h.mode
    exact ⟨mode, (congrArg (fun b : Session.Bindings =>
      rt.registries.modes.instantiate b.mode) hbind).trans hmode⟩
  policy := (h.restorable.of_bindings hbind).policy

/-! ### Checkpoints -/

/-- A log that ends in a checkpoint of the session is consistent with it. -/
lemma Consistent.of_checkpoint (h : s.Bound rt sessionId) (log : List LogEntry) {raw : Bytes}
    (hraw : rt.serde.encode (.ofSession s) = some raw) (nowMs : Int64) (discarded : ℕ) :
    Consistent rt sessionId (s, log ++ [checkpointEntry s sessionId raw nowMs discarded]) := by
  obtain ⟨mode, hmode⟩ := h.mode
  have hrestore : restore rt.serde sessionId (checkpointEntry s sessionId raw nowMs discarded)
      = .ok (some s.forgetActivity) := h.restorable.restore hraw
  refine ⟨h, .inr ⟨⟨s.forgetActivity, mode, []⟩, ?_⟩, s.forgetActivity, ?_, .inl rfl⟩
  · have hmode' : rt.registries.modes.instantiate s.forgetActivity.mode = .ok mode := hmode
    have hlast := lastCheckpoint_checkpoint
      (show (checkpointEntry s sessionId raw nowMs discarded).entryKind = .Checkpoint from rfl) log
    simp only [checkpointBase, hlast, hrestore, hmode']
  · exact replaySession_checkpoint rfl hrestore hmode

/-! ### Appends -/

lemma Rooted.concat {serde : SessionSerde} (h : Rooted serde registry sessionId log)
    (hkind : entry.entryKind ≠ .Checkpoint) : Rooted serde registry sessionId (log ++ [entry]) := by
  obtain ⟨start, hstart⟩ | ⟨base, hbase⟩ := h
  · refine .inl ⟨start, ?_⟩
    rw [List.find?_append, hstart]
    rfl
  · refine .inr ⟨base.push entry, ?_⟩
    rw [checkpointBase_concat hkind, hbase]
    rfl

/-- An entry that replays the change of a live session keeps the log consistent. -/
lemma Consistent.append {s' : Session}
    (h : Consistent rt sessionId (s, log)) (hlive : s.state ≠ .Expired)
    (hkind : entry.entryKind ≠ .Checkpoint) (hbind : s'.bindings = s.bindings)
    (hentry : ∀ mode, rt.registries.modes.instantiate s.mode = .ok mode →
      ∃ r, replayEntry mode sessionId s.forgetActivity entry = .ok r ∧ ImageOf r s') :
    Consistent rt sessionId (s', log ++ [entry]) := by
  obtain ⟨r, hr, himage⟩ := h.replayed
  obtain ⟨mode, hmode⟩ := h.bound.mode
  have hexact : r = s.forgetActivity := himage.resolve_right fun hexp => hlive hexp.1
  subst hexact
  obtain ⟨r', hr', himage'⟩ := hentry mode hmode
  refine ⟨h.bound.of_bindings hbind, h.rooted.concat hkind, r', ?_, himage'⟩
  have hmode' : rt.registries.modes.instantiate s.forgetActivity.mode = .ok mode := hmode
  rw [Runtime.replayLog] at hr ⊢
  rw [replaySession_concat hkind h.rooted, hr, Except.ok_bind, hmode', Except.ok_bind, hr']

lemma Envelope.stamped_eq (env : Envelope) (atMs : Int64) :
    ∃ t, env.stamped atMs = env.withTimestamp t := ⟨_, rfl⟩

/-- The entry of an accepted envelope replays, on the image of the session, to the image of what
its dispatch left. -/
lemma replayEntry_incoming (hf : mode.LogFaithful) {response : ModeResponse} {nowMs : Int64}
    (hrev : 1 ≤ s.semanticsRev) (hversion : env.macpVersion = macpVersion)
    (hid : env.sessionId = sessionId) (henv : env.mode = s.mode) (hne : env.messageId ≠ "")
    (hopen : s.state = .Open) (hclock : nowMs ≠ 0 ∨ env.timestampUnixMs = nowMs)
    (hauth : mode.authorizeSender s env = .ok ())
    (hmsg : mode.onMessageAt s env ⟨nowMs⟩ = .ok response) :
    replayEntry mode sessionId s.forgetActivity (makeIncomingEntry env nowMs)
      = .ok (Session.applyModeResponse { s.forgetActivity with
          seenMessageIds := s.seenMessageIds.insert env.messageId } response) := by
  obtain ⟨t, ht⟩ := env.stamped_eq nowMs
  have hread : recordedEnvelope (makeIncomingEntry env nowMs) sessionId s.forgetActivity.mode
      = env.withTimestamp t :=
    (recordedEnvelope_makeIncomingEntry hversion hid henv nowMs).trans ht
  have hevent : replayEvent s.forgetActivity.mode sessionId (makeIncomingEntry env nowMs)
      = some (.Message (env.withTimestamp t) nowMs) := by
    rw [replayEvent, hread, recordedAt_makeIncomingEntry hclock]
    rfl
  have hopen' : s.forgetActivity.state = .Open := hopen
  rw [replayEntry, hevent]
  dsimp only
  rw [applyEvent, applyEnvelope, if_neg (not_not.mpr hopen'), hf.authorizeSender, hauth]
  dsimp only
  rw [hf.onMessageAt s env t ⟨nowMs⟩ hrev, hmsg]
  simp only [logReplayOptions, Bool.false_eq_true, ↓reduceIte]
  exact congrArg _ (takeSlot_applyModeResponse hne s.forgetActivity response)

/-! ### The image of a transition -/

section Forget

variable (s : Session)

lemma forgetActivity_commit (env : Envelope) (r : ModeResponse) (nowMs : Int64) :
    (commit s env r nowMs).1.forgetActivity = Session.applyModeResponse { s.forgetActivity with
      seenMessageIds := s.seenMessageIds.insert env.messageId } r := by
  cases r <;> rfl

lemma forgetActivity_commitSynthetic (syn : Synthetic) :
    (commitSynthetic s syn).1.forgetActivity = Session.applyModeResponse { s.forgetActivity with
      seenMessageIds := s.seenMessageIds.insert syn.envelope.messageId } syn.response := by
  obtain ⟨envelope, response⟩ := syn
  cases response <;> rfl

lemma forgetActivity_cancel : s.cancel.1.forgetActivity = s.forgetActivity.cancel.1 := by
  by_cases h : s.state.isTerminal = true
  · have h' : s.forgetActivity.state.isTerminal = true := h
    rw [Session.cancel, Session.cancel, if_pos h, if_pos h']
  · have h' : ¬ s.forgetActivity.state.isTerminal = true := h
    rw [Session.cancel, Session.cancel, if_neg h, if_neg h']
    rfl

lemma forgetActivity_suspend (nowMs : Int64) :
    (s.suspend nowMs).1.forgetActivity = (s.forgetActivity.suspend nowMs).1 := by
  by_cases h : s.state ≠ .Open
  · have h' : s.forgetActivity.state ≠ .Open := h
    rw [Session.suspend, Session.suspend, if_pos h, if_pos h']
  · have h' : ¬ s.forgetActivity.state ≠ .Open := h
    rw [Session.suspend, Session.suspend, if_neg h, if_neg h']
    rfl

lemma forgetActivity_resume (nowMs : Int64) :
    (s.resume nowMs).1.forgetActivity = (s.forgetActivity.resume nowMs).1 := by
  have hstate : s.forgetActivity.state = s.state := rfl
  have hpause : s.forgetActivity.recordPause nowMs = (s.recordPause nowMs).forgetActivity := rfl
  have hbanked : s.forgetActivity.banked nowMs = s.banked nowMs := rfl
  have hfields : ∀ s' : Session, s'.forgetActivity.semanticsRev = s'.semanticsRev
      ∧ s'.forgetActivity.suspensionIntervals = s'.suspensionIntervals
      ∧ s'.forgetActivity.effectiveMaxSuspendMs = s'.effectiveMaxSuspendMs
      ∧ s'.forgetActivity.accumulatedSuspendedMs = s'.accumulatedSuspendedMs :=
    fun _ => ⟨rfl, rfl, rfl, rfl⟩
  obtain ⟨h1, h2, h3, h4⟩ := hfields (s.recordPause nowMs)
  rw [Session.resume, Session.resume]
  simp only [hstate, hpause, hbanked, h1, h2, h3, h4]
  split_ifs <;> rfl

end Forget

/-- **Every write keeps the log consistent.** -/
theorem Consistent.write (hrt : rt.Sound) {p p' : Session × List LogEntry}
    (h : Consistent rt sessionId p) (hw : Write rt sessionId { t | t ≠ 0 } p p') :
    Consistent rt sessionId p' := by
  cases hw with
  | @expired s log nowMs hlive =>
    have hexp : s.expire.1 = { s with state := .Expired, suspendedAtMs := none } := by
      rw [Session.expire, if_neg (by simp [hlive])]
    refine h.append (fun heq => ?_) (by rintro ⟨⟩) (by rw [hexp]; rfl) fun mode _ => ?_
    · rw [heq] at hlive
      cases hlive
    · refine ⟨_, replayEntry_expired mode sessionId _ [] s.mode nowMs, ?_⟩
      rw [hexp]
      exact .inr ⟨rfl, s.suspendedAtMs, rfl⟩
  | @cleaned s log nowMs hopen =>
    refine h.append (by rw [hopen]; decide) (by rintro ⟨⟩) rfl fun mode _ => ?_
    exact ⟨_, replayEntry_expired mode sessionId _ [] s.mode nowMs, .inl rfl⟩
  | @synthesized s log mode syn nowMs hmode hsyn =>
    have hf := hrt.modes _ _ hmode
    have hem := hf.emission _ _ _ hsyn
    obtain ⟨hopen, _, _, hauth, hmsg⟩ := nextSynthetic_eq_some hsyn
    refine h.append (by rw [hopen]; decide) (by rintro ⟨⟩)
      (Session.applyModeResponse_bindings _ _) fun mode' hmode' => ?_
    cases hmode.symm.trans hmode'
    refine ⟨_, replayEntry_incoming hf h.bound.rev hem.version
      (hem.sessionId_eq.trans h.bound.sessionId_eq) hem.mode_eq hem.messageId_ne hopen (.inr rfl)
      hauth hmsg, .inl ?_⟩
    exact (forgetActivity_commitSynthetic s syn).symm
  | @accepted s log mode env response nowMs hmode hclock hshape henv hid _ hready hmsg =>
    have hf := hrt.modes _ _ hmode
    obtain ⟨hopen, hauth⟩ := hready hf
    have hne : env.messageId ≠ "" := by simpa using checkEnvelopeShape_eq_ok hshape
    refine h.append (by rw [hopen]; decide) (by rintro ⟨⟩)
      (Session.applyModeResponse_bindings _ _) fun mode' hmode' => ?_
    cases hmode.symm.trans hmode'
    refine ⟨_, replayEntry_incoming hf h.bound.rev (checkEnvelopeShape_version hshape) hid henv
      hne hopen (.inl hclock) hauth hmsg, .inl ?_⟩
    exact (forgetActivity_commit s env response nowMs).symm
  | @cancelled s log payload nowMs hlive =>
    have hcancel : s.cancel.1 = { s with state := .Cancelled, suspendedAtMs := none } := by
      rw [Session.cancel, if_neg (by simp [hlive])]
    refine h.append (fun heq => ?_) (by rintro ⟨⟩) (by rw [hcancel]; rfl) fun mode _ => ?_
    · rw [heq] at hlive
      cases hlive
    · exact ⟨_, replayEntry_cancel mode sessionId _ payload s.mode nowMs,
        .inl (forgetActivity_cancel s).symm⟩
  | @suspended s log payload nowMs hopen =>
    refine h.append (by rw [hopen]; decide) (by rintro ⟨⟩) ?_ fun mode _ => ?_
    · rw [Session.suspend]
      split_ifs <;> rfl
    · exact ⟨_, replayEntry_suspend mode sessionId _ payload s.mode nowMs,
        .inl (forgetActivity_suspend s nowMs).symm⟩
  | @resumed s log payload nowMs hsusp =>
    refine h.append (by rw [hsusp]; decide) (by rintro ⟨⟩) (s.resume_bindings nowMs)
      fun mode _ => ?_
    exact ⟨_, replayEntry_resume mode sessionId _ payload s.mode nowMs,
      .inl (forgetActivity_resume s nowMs).symm⟩
  | @checkpointed s log raw nowMs discarded hraw => exact .of_checkpoint h.bound log hraw nowMs _
  | @compacted s log raw nowMs discarded hraw => exact .of_checkpoint h.bound [] hraw nowMs _

/-! ### Starts and runs -/

/-- Filling in a missing timestamp with the acceptance clock does not move the deadline. -/
lemma ttlBase_stamped (env : Envelope) (acceptedAt : Int64) :
    ttlBase (env.stamped acceptedAt) acceptedAt = ttlBase env acceptedAt := by
  by_cases h : env.timestampUnixMs = 0
  · have hstamp : (env.stamped acceptedAt).timestampUnixMs = acceptedAt :=
      if_neg (not_not.mpr h)
    rw [ttlBase, ttlBase, hstamp, h, ite_self, if_neg (by decide)]
  · have hstamp : (env.stamped acceptedAt).timestampUnixMs = env.timestampUnixMs := if_pos h
    rw [ttlBase, ttlBase, hstamp]

/-- What an accepted start copies onto its session. -/
lemma accept_copies {policy : Option PolicyDefinition} (hs : v.accept env mode policy = .ok s) :
    s.semanticsRev = currentSemanticsRev ∧ s.policyDefinition = policy ∧ s.mode = env.mode
      ∧ s.sessionId = env.sessionId ∧ s.ttlMs = v.ttlMs := by
  obtain ⟨version, response, _, _, _, rfl⟩ := ValidatedStart.accept_eq_ok hs
  cases response <;> exact ⟨rfl, rfl, rfl, rfl, rfl⟩

/-- **A start the server accepted is rebuilt from the entry it left.** -/
theorem replayStart_startEntry (hf : mode.LogFaithful) (hid : env.sessionId = sessionId)
    (hv : validateSessionStart rt.prost env acceptedAt (startOptions rt env.mode) = .ok v)
    (hs : v.accept env mode (some policy) = .ok s) :
    replayStart rt.prost { startRecord rt.registries.modes sessionId (startEntry env acceptedAt v s)
      with policy := some policy } mode = .ok s := by
  obtain ⟨hshape, hparse, hcanon, httl, hexp, hat⟩ := validateSessionStart_eq_ok hv
  obtain ⟨hrev, _⟩ := accept_copies hs
  obtain ⟨version, response, hversion, hresp, _, hs'⟩ := ValidatedStart.accept_eq_ok hs
  have henv : recordedEnvelope (startEntry env acceptedAt v s) sessionId env.mode
      = env.stamped acceptedAt :=
    recordedEnvelope_makeIncomingEntry (checkEnvelopeShape_version hshape) hid rfl acceptedAt
  have hpol : replayPolicyVersion (some policy) v.payload = version := by
    rw [ValidatedStart.policyVersion_eq_ok hversion]
    unfold replayPolicyVersion
    cases v.payload.policyVersion.isEmpty <;> rfl
  have hrecord : { startRecord rt.registries.modes sessionId (startEntry env acceptedAt v s) with
      policy := some policy } = (⟨env.stamped acceptedAt, acceptedAt, currentSemanticsRev,
        v.maxSuspendMs, v.boundModeVersion, some policy,
        some (rt.registries.modes.requiresStrictSessionStart env.mode)⟩ : RecordedStart) := by
    rw [← henv, ← hrev]
    rfl
  have hbind : RecordedStart.bind ⟨env.stamped acceptedAt, acceptedAt, currentSemanticsRev,
        v.maxSuspendMs, v.boundModeVersion, some policy,
        some (rt.registries.modes.requiresStrictSessionStart env.mode)⟩ v.payload v.ttlMs
      = v.bind env version (some policy) := by
    simp only [RecordedStart.bind, ValidatedStart.bind, ttlBase_stamped, hpol, hexp, hat]
    rfl
  have hresp' : mode.onSessionStart (v.bind env version (some policy)) (env.stamped acceptedAt)
      = .ok response := by
    obtain ⟨t, ht⟩ := env.stamped_eq acceptedAt
    rw [ht, hf.onSessionStart, hresp]
  have hcanon' : validateIfStrict (rt.registries.modes.requiresStrictSessionStart env.mode) env.mode
      v.payload = .ok () := hcanon
  rw [hrecord]
  simp only [replayStart, Option.getD_some]
  have hpayload : (env.stamped acceptedAt).payload = env.payload := rfl
  have hmode : (env.stamped acceptedAt).mode = env.mode := rfl
  rw [hpayload, hmode, replayPayload_of_parse hparse, Except.ok_bind, hcanon', Except.ok_bind,
    replayTtlMs_of_extract httl, Except.ok_bind, hbind, hresp', Except.ok_bind, hs']
  rfl

section

variable (hv : validateSessionStart rt.prost env acceptedAt (startOptions rt env.mode) = .ok v)

include hv

/-- The policy id the entry of a start asks for is the one its payload does. -/
lemma effectivePolicyId_startEntry (s : Session) :
    effectivePolicyId rt.prost (startEntry env acceptedAt v s)
      = if v.payload.policyVersion.isEmpty then defaultPolicyId else v.payload.policyVersion := by
  obtain ⟨_, hparse, _⟩ := validateSessionStart_eq_ok hv
  have hraw : (startEntry env acceptedAt v s).rawPayload = env.payload := rfl
  rw [effectivePolicyId, hraw, hparse]

/-- The policy an accepted start was resolved with is the one its entry asks for. -/
lemma acceptStart_eq_ok (h : acceptStart rt env mode v = .ok s) :
    ∃ policy, rt.registries.policies.resolve
          (effectivePolicyId rt.prost (startEntry env acceptedAt v s)) = some policy
      ∧ v.accept env mode (some policy) = .ok s := by
  rw [effectivePolicyId_startEntry hv]
  unfold acceptStart at h
  dsimp only at h
  split at h
  · cases h
  · rename_i policy hpolicy
    exact ⟨policy, hpolicy, h⟩

end

/-- What the policy registry resolves, it holds. -/
lemma PolicyRegistry.exists_get_of_resolve {policies : PolicyRegistry} {version : String}
    (h : policies.resolve version = some policy) :
    ∃ policyId, policies.get policyId = some policy := by
  rw [resolve] at h
  split_ifs at h
  · exact ⟨_, h⟩
  · exact ⟨_, h⟩

/-- What a start recorded in the log binds. -/
structure Started.Binds (rt : Runtime) (sessionId : String) (s : Session) (entry : LogEntry) :
    Prop where
  isStart : entry.isStart = true
  sessionId_eq : s.sessionId = sessionId
  ttl_pos : 0 < s.ttlMs
  rev : 1 ≤ s.semanticsRev
  mode : ∃ mode, rt.registries.modes.instantiate s.mode = .ok mode
  policy : ∃ policy, s.policyDefinition = some policy
    ∧ rt.registries.policies.resolve (effectivePolicyId rt.prost entry) = some policy

lemma Started.binds (h : Started rt sessionId s entry) : Started.Binds rt sessionId s entry := by
  obtain ⟨env, acceptedAt, v, mode, hid, hmode, hv, hacc, rfl⟩ := h.exists_start
  obtain ⟨policy, hpolicy, hs⟩ := acceptStart_eq_ok hv hacc
  obtain ⟨htype, _⟩ := validateSessionStart_names hv
  obtain ⟨_, _, _, httl, _⟩ := validateSessionStart_eq_ok hv
  obtain ⟨hrev, hbound, hname, hsid, hms⟩ := accept_copies hs
  refine ⟨?_, hsid.trans hid, ?_, ?_, ⟨mode, ?_⟩, policy, hbound, hpolicy⟩
  · change (EntryKind.Incoming == .Incoming && env.messageType == "SessionStart") = true
    rw [htype]
    decide
  · rw [hms]
    have hone : (0 : Int64) < 1 := by decide
    exact Int64.lt_of_lt_of_le hone (extractTtlMs_eq_ok httl).2.1
  · rw [hrev]
    decide
  · rw [hname, hmode]

/-- A started session is consistent with the one entry of its log. -/
lemma Started.consistent (hrt : rt.Sound) (h : Started rt sessionId s entry) :
    Consistent rt sessionId (s, [entry]) := by
  obtain ⟨hstart, hsid, hpos, hrev, hinst, bound, hbound, hresolve⟩ := h.binds
  obtain ⟨env, acceptedAt, v, mode, hid, hmode, hv, hacc, rfl⟩ := h.exists_start
  obtain ⟨policy, hpolicy, hs⟩ := acceptStart_eq_ok hv hacc
  obtain ⟨_, hnamed⟩ := validateSessionStart_names hv
  obtain ⟨policyId, hget⟩ := PolicyRegistry.exists_get_of_resolve hresolve
  have hfind : [startEntry env acceptedAt v s].find? (·.isStart)
      = some (startEntry env acceptedAt v s) := by
    rw [List.find?_cons, hstart]
  refine ⟨⟨hsid, hpos, hrev, hinst, bound, hbound, hrt.policies _ _ hget⟩,
    .inl ⟨_, hfind⟩, s, ?_, .inl ?_⟩
  · have hmode' : rt.registries.modes.instantiate (startEntry env acceptedAt v s).mode
        = .ok mode := hmode
    have hnamed' : (startEntry env acceptedAt v s).mode.isEmpty = false := hnamed
    have hreplay := replayStart_startEntry (hrt.modes _ _ hmode) hid hv hs
    have hbase : startBase rt.prost rt.registries.modes (some rt.registries.policies) sessionId
        [startEntry env acceptedAt v s] = .ok ⟨s, mode, []⟩ := by
      rw [startBase, recordedStart, hfind]
      simp only [hnamed', Bool.false_eq_true, ↓reduceIte, hmode', Option.bind_some, hpolicy,
        hreplay]
      rfl
    rw [Runtime.replayLog, replaySession_eq_finish, replayBase]
    have hnone : checkpointBase rt.serde rt.registries.modes sessionId
        [startEntry env acceptedAt v s] = .ok none := rfl
    rw [hnone, hbase]
    rfl
  · obtain ⟨version, response, _, _, _, rfl⟩ := ValidatedStart.accept_eq_ok hs
    cases response <;> rfl

/-- **Every start gives and every write keeps a consistent log.** -/
theorem Consistent.maintained (hrt : rt.Sound) :
    rt.Maintains sessionId { t | t ≠ 0 } (Consistent rt sessionId) :=
  ⟨fun _ _ hstart => hstart.consistent hrt, fun _ _ hwrite h => h.write hrt hwrite⟩

/-- **Crash consistency.**  At every point of every run, whichever appends failed, the durable log
replays to the in-memory session. -/
theorem crash_consistency (hmodes : rt.registries.modes.Shipped rt.prost)
    (hpolicies : ∀ policyId policy, rt.registries.policies.get policyId = some policy →
      rt.serde.Exact policy.rules)
    {clock wallClock : Stream' Int64} {writes : Stream' Bool} (hclock : ∀ n, clock.get n ≠ 0)
    (ops : List ServerOp) {s : Session}
    (hs : (serverRun rt sessionId (.initial clock wallClock writes) ops).session = some s) :
    ∃ r, rt.replayLog sessionId
          (serverRun rt sessionId (.initial clock wallClock writes) ops).io.log = .ok r
      ∧ r.Agrees s := by
  have hrt : rt.Sound := ⟨fun _ _ => hmodes.logFaithful, hpolicies⟩
  obtain ⟨r, hr, himage⟩ := (holds_serverRun (Consistent.maintained hrt) hclock hs).replayed
  exact ⟨r, hr, himage.agrees⟩

end Writes

/-! ### The sample runtime -/

section Sample

open Handoff

/-- A storage whose fourth write fails. -/
def flaky : Stream' Bool := fun n => n != 3

lemma sampleRuntime_exact (policyId : String) (policy : PolicyDefinition)
    (h : sampleRuntime.registries.policies.get policyId = some policy) :
    sampleRuntime.serde.Exact policy.rules := by
  have hget : sampleRuntime.registries.policies.get policyId
      = if compare "p" policyId = .eq then some samplePolicy else none := by
    rw [PolicyRegistry.get, sampleRuntime]
    dsimp only
    rw [Std.ExtTreeMap.getElem?_insert, Std.ExtTreeMap.getElem?_empty]
  rw [hget] at h
  split_ifs at h
  obtain rfl := Option.some.inj h
  change Json.Integral samplePolicy.rules
  simp [samplePolicy, Json.Integral, Json.Everywhere, Json.EverywhereMembers, JsonNumber.Integral]

/-- The session is started and suspended, and its resume is not recorded. -/
theorem crash_consistency_sample :
    ∃ s, (serverRun sampleRuntime sampleId (.initial (.const 5) (.const 0) flaky)
          [.process (sampleStart []) none 0, .suspendSession "r" "a",
            .resumeSession "r" "a"]).session = some s
      ∧ s.state = .Suspended
      ∧ ∃ r, sampleRuntime.replayLog sampleId
          (serverRun sampleRuntime sampleId (.initial (.const 5) (.const 0) flaky)
            [.process (sampleStart []) none 0, .suspendSession "r" "a",
              .resumeSession "r" "a"]).io.log = .ok r
        ∧ r.Agrees s := by
  have hclock : ∀ n, (Stream'.const (5 : Int64)).get n ≠ 0 := fun _ => by
    rw [Stream'.get_const]
    decide
  exact ⟨_, rfl, rfl,
    crash_consistency sampleRuntime_shipped sampleRuntime_exact hclock _ rfl⟩

/-- A host whose clock always reads zero, with a storage that never fails. -/
def zeroClock : World := .initial (.const 0) (.const 0) (.const true)

lemma zeroClock_start :
    ∃ entry, Rooted sampleRuntime.serde sampleRuntime.registries.modes sampleId [entry]
      ∧ sampleRuntime.replayLog sampleId [entry] = .ok (sampleSession 0)
      ∧ effectivePolicyId sampleRuntime.prost entry = "p"
      ∧ (ServerOp.process (sampleStart []) none 0).apply sampleRuntime sampleId zeroClock
        = ⟨some (sampleSession 0),
          ⟨[entry], some [entry], .const 0, .const 0, .const true⟩⟩ :=
  ⟨_, .inl ⟨_, rfl⟩, rfl, rfl, rfl⟩

variable {env : Envelope} {rt : Runtime} {s : Session} {bytes : List UInt8}

lemma acceptMessage_appended {mode : Mode} {nowMs : Int64} {c : Cell} {response : ModeResponse}
    (hmsg : dispatch c.session env mode nowMs = .ok response)
    (hopen : (commit c.session env response nowMs).2 ≠ .Resolved)
    (hinterval : rt.checkpointInterval = 0) (hwrite : c.io.writes.head = true) :
    (acceptMessage rt mode env nowMs c).1.session = (commit c.session env response nowMs).1
      ∧ (acceptMessage rt mode env nowMs c).1.io.log
        = c.io.log ++ [makeIncomingEntry env nowMs] := by
  unfold acceptMessage
  rw [hmsg]
  dsimp only
  simp only [Io.append, hwrite, if_true, if_neg hopen, maybeInsertCheckpoint, hinterval]
  exact ⟨trivial, trivial⟩

/-- A message that passes the checks, with nothing due, is handed to the mode. -/
lemma processMessage_proceeds {mode : Mode} {c : Cell}
    (hpre : checkPreconditions c.session env c.io.clock.head = .ok .Proceed)
    (hmode : rt.registries.modes.instantiate c.session.mode = .ok mode)
    (hadm : admitEnvelope c.session env mode = .ok ())
    (hsyn : nextSynthetic c.session mode c.io.clock.head = .ok none) :
    processMessage rt env c
      = acceptMessage rt mode env c.io.clock.head ⟨c.session, c.io.nowMs.2⟩ := by
  unfold processMessage
  simp only [Io.nowMs, hpre, hmode, hadm, synthesizeDueAccept, hsyn]

lemma process_apply {sessionId : String} {io : Io} (hid : env.sessionId = sessionId)
    (htype : env.messageType = "HandoffOffer") :
    (ServerOp.process env none 0).apply rt sessionId ⟨some s, io⟩
      = ⟨some (processMessage rt env ⟨s, io⟩).1.session,
        (processMessage rt env ⟨s, io⟩).1.io⟩ := by
  unfold ServerOp.apply
  dsimp only
  rw [if_neg (not_not.mpr hid), htype, if_neg (by decide), if_neg (by decide)]
  rfl

lemma commit_persist {nowMs : Int64} :
    (commit s env (.PersistState bytes) nowMs).1.modeState = bytes
      ∧ (commit s env (.PersistState bytes) nowMs).2 = s.state := ⟨rfl, rfl⟩

lemma takeSlot_persist {id : String} :
    (takeSlot (s.applyModeResponse (.PersistState bytes)) id).modeState = bytes := by
  unfold takeSlot
  split <;> rfl

/-- The sample offer, stamped by its sender. -/
def lateOffer : Envelope := sampleOffer.withTimestamp 7

lemma lateOffer_passes (nowMs : Int64) :
    admitEnvelope (sampleSession 0) lateOffer (mode deps) = .ok ()
      ∧ nextSynthetic (sampleSession 0) (mode deps) nowMs = .ok none
      ∧ dispatch (sampleSession 0) lateOffer (mode deps) nowMs
        = .ok (persist deps (State.default.setOffer "h" (sampleRecord nowMs 0))) := by
  obtain ⟨hadm, hsyn, hmsg⟩ := sampleOffer_passes (s := sampleSession 0) nowMs
    (decodeState_of_encoded rfl) rfl rfl rfl
  have hfaithful := (mode_logFaithful deps).onMessageAt (sampleSession 0)
    sampleOffer 7 ⟨nowMs⟩ (by decide)
  exact ⟨hadm, hsyn, hfaithful.trans hmsg⟩

lemma lateOffer_accepted {io : Io}
    (hpre : checkPreconditions (sampleSession 0) lateOffer io.clock.head
      = .ok .Proceed)
    (hwrite : io.writes.head = true) :
    (∃ s, ((ServerOp.process lateOffer none 0).apply sampleRuntime sampleId
          ⟨some (sampleSession 0), io⟩).session = some s
        ∧ s.modeState
          = deps.codec.encode (State.default.setOffer "h" (sampleRecord io.clock.head 0)))
      ∧ ((ServerOp.process lateOffer none 0).apply sampleRuntime sampleId
          ⟨some (sampleSession 0), io⟩).io.log
        = io.log ++ [makeIncomingEntry lateOffer io.clock.head] := by
  have hmode : sampleRuntime.registries.modes.instantiate "macp.mode.handoff.v1"
      = .ok (mode deps) := rfl
  obtain ⟨hadm, hsyn, hmsg⟩ := lateOffer_passes io.clock.head
  have hopen : (commit (sampleSession 0) lateOffer
      (persist deps (State.default.setOffer "h" (sampleRecord io.clock.head 0))) io.clock.head).2
        ≠ .Resolved := by
    rw [persist, commit_persist.2]
    decide
  let c : Cell := ⟨sampleSession 0, io⟩
  have hproceeds : processMessage sampleRuntime lateOffer c
      = acceptMessage sampleRuntime (mode deps) lateOffer io.clock.head ⟨c.session, io.nowMs.2⟩ :=
    processMessage_proceeds hpre hmode hadm hsyn
  obtain ⟨hsession, hlog⟩ := @acceptMessage_appended lateOffer sampleRuntime (mode deps)
    io.clock.head ⟨c.session, io.nowMs.2⟩ _ hmsg hopen rfl hwrite
  have happly : (ServerOp.process lateOffer none 0).apply sampleRuntime sampleId
      ⟨some (sampleSession 0), io⟩
        = ⟨some (processMessage sampleRuntime lateOffer c).1.session,
          (processMessage sampleRuntime lateOffer c).1.io⟩ :=
    process_apply rfl rfl
  rw [happly, hproceeds]
  dsimp only
  rw [hsession, hlog]
  exact ⟨⟨_, rfl, commit_persist.1⟩, rfl⟩

/-- An entry with the clock zero is replayed at the timestamp of its envelope. -/
lemma lateOffer_replayed :
    ∃ r, replayEntry (mode deps) sampleId (sampleSession 0)
        (makeIncomingEntry lateOffer 0) = .ok r
      ∧ r.modeState = deps.codec.encode (State.default.setOffer "h" (sampleRecord 7 0)) := by
  have hevent : replayEvent (sampleSession 0).mode sampleId
      (makeIncomingEntry lateOffer 0) = some (.Message lateOffer 7) := rfl
  have hauth : (mode deps).authorizeSender (sampleSession 0) lateOffer
      = .ok () := rfl
  have hmsg := (lateOffer_passes 7).2.2
  rw [dispatch] at hmsg
  rw [replayEntry, hevent]
  dsimp only
  rw [applyEvent, applyEnvelope, if_neg (by decide), hauth]
  dsimp only
  rw [hmsg]
  exact ⟨_, rfl, takeSlot_persist⟩

/-- At the clock zero the replayed offer has its envelope's timestamp for its time. -/
theorem zero_clock_replays_otherwise :
    ∃ s r, (serverRun sampleRuntime sampleId zeroClock
          [.process (sampleStart []) none 0, .process lateOffer none 0]).session = some s
      ∧ sampleRuntime.replayLog sampleId (serverRun sampleRuntime sampleId zeroClock
          [.process (sampleStart []) none 0, .process lateOffer none 0]).io.log = .ok r
      ∧ ¬ r.Agrees s := by
  obtain ⟨entry, hroot, hreplay, _, hstart⟩ := zeroClock_start
  let io : Io := ⟨[entry], some [entry], .const 0, .const 0, .const true⟩
  have hpre : checkPreconditions (sampleSession 0) lateOffer 0
      = .ok .Proceed := by decide
  obtain ⟨⟨s, hs, hlive⟩, hlog⟩ := @lateOffer_accepted io hpre rfl
  have hlive' : s.modeState = deps.codec.encode (State.default.setOffer "h" (sampleRecord 0 0)) :=
    hlive
  obtain ⟨r, hr, hlate⟩ := lateOffer_replayed
  have hmode : sampleRuntime.registries.modes.instantiate
      (sampleSession 0).mode = .ok (mode deps) := rfl
  have hkind : (makeIncomingEntry lateOffer 0).entryKind ≠ .Checkpoint := by rintro ⟨⟩
  have hlog' : ((ServerOp.process lateOffer none 0).apply sampleRuntime sampleId
      ⟨some (sampleSession 0), io⟩).io.log
        = [entry] ++ [makeIncomingEntry lateOffer 0] := hlog
  rw [serverRun, List.foldl_cons, List.foldl_cons, List.foldl_nil, hstart]
  refine ⟨s, r, hs, ?_, fun hagrees => ?_⟩
  · rw [hlog']
    rw [Runtime.replayLog] at hreplay ⊢
    rw [replaySession_concat hkind hroot, hreplay, Except.ok_bind, hmode, Except.ok_bind, hr]
  · -- the recorded times of the offer differ, and the codec keeps them apart
    have hbytes := hagrees.modeState
    rw [hlive', hlate] at hbytes
    have hstate := congrArg deps.codec.decode hbytes
    rw [deps.codec.decode_encode, deps.codec.decode_encode] at hstate
    have hoffer := congrArg (fun st => State.offer? st "h") (Option.some.inj hstate)
    simp only [State.offer?_setOffer_self] at hoffer
    exact absurd hoffer (by decide)

end Sample

end MacpRuntime
