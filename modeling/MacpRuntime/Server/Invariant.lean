import MacpRuntime.Server.Consistency
import MacpRuntime.Server.Retention

/-!
What a mode's responses keep, the server keeps: through every call, and through restarts from the
log.

* `Mode.Keeps`: a property of sessions that every start of a mode gives and every authorized message
  keeps.  It reads the mode state and a few bindings only;
* `SessionSerde.KeepsState`: storage keeps a session up to the numbers in its policy's rules;
* `Hosted`: what a session id can be brought to, by any calls and under any registries;
* `Hosted.upheld`: **every session in memory has the property of its mode**.
-/

namespace MacpRuntime

/-- What a property of sessions may read, besides the mode state: the bindings that storage
keeps as they are. -/
structure Session.SameState (s t : Session) : Prop where
  mode : t.mode = s.mode
  modeState : t.modeState = s.modeState
  participants : t.participants = s.participants
  initiatorSender : t.initiatorSender = s.initiatorSender
  semanticsRev : t.semanticsRev = s.semanticsRev

lemma Session.SameState.of_bindings {s t : Session} (hbind : t.bindings = s.bindings)
    (hstate : t.modeState = s.modeState) : s.SameState t where
  mode := congrArg (·.mode) hbind
  modeState := hstate
  participants := congrArg (·.participants) hbind
  initiatorSender := congrArg (·.initiatorSender) hbind
  semanticsRev := congrArg (·.semanticsRev) hbind

/-- A property that a mode establishes and keeps. -/
structure Mode.Keeps (mode : Mode) (P : Session → Prop) : Prop where
  congr : ∀ s t, s.SameState t → P s → P t
  start : ∀ s env r, mode.onSessionStart s env = .ok r → P (s.applyModeResponse r)
  message : ∀ s env ctx r, mode.authorizeSender s env = .ok () →
    mode.onMessageAt s env ctx = .ok r → P s → P (s.applyModeResponse r)

/-- Storage keeps a session up to the numbers in its policy's rules. -/
def SessionSerde.KeepsState (serde : SessionSerde) : Prop :=
  ∀ p bytes p', (∀ d ∈ p.policyDefinition, d.rules.Literal) → serde.encode p = some bytes →
    serde.decode bytes = some p' →
      ∃ policy, p' = { p with policyDefinition := policy } ∧ ∀ d ∈ policy, d.rules.Literal

lemma jsonSessionOf_keepsState (t : FloatText) : (jsonSessionOf t).KeepsState := by
  intro p bytes p' hliteral hencode hdecode
  obtain ⟨policy, rfl, _, hpolicy⟩ := jsonSessionOf_decode_eq_some hliteral hencode hdecode
  exact ⟨policy, rfl, hpolicy⟩

/-- A runtime that stores sessions with `serde`, holds policies that are values of JSON, and runs
`mode` under `name`. -/
structure Runtime.Serves (rt : Runtime) (serde : SessionSerde) (name : String) (mode : Mode) :
    Prop where
  serde_eq : rt.serde = serde
  policies : ∀ policyId policy, rt.registries.policies.get policyId = some policy →
    policy.rules.Literal
  instantiate : rt.registries.modes.instantiate name = .ok mode

/-- What a session id can be brought to, each call under registries of its own. -/
inductive Hosted (rts : Set Runtime) (sessionId : String) : Host → Prop
  | initial (clock wallClock : Stream' Int64) (writes : Stream' Bool) :
      Hosted rts sessionId (.initial clock wallClock writes)
  | apply {rt : Runtime} {h : Host} (hrt : rt ∈ rts) (hh : Hosted rts sessionId h) (op : HostOp) :
      Hosted rts sessionId (op.apply rt sessionId h)

/-- The invariant of a session: its policy is a value of JSON, and it has the property if it is
in the mode. -/
structure Upheld (name : String) (P : Session → Prop) (s : Session) : Prop where
  policy : ∀ d ∈ s.policyDefinition, d.rules.Literal
  holds : s.mode = name → P s

/-- Whatever a checkpoint of the log restores upholds it. -/
def UpheldLog (serde : SessionSerde) (name : String) (P : Session → Prop) (log : List LogEntry) :
    Prop :=
  ∀ entry ∈ log, entry.entryKind = .Checkpoint →
    ∀ p, serde.decode entry.rawPayload = some p → Upheld name P p.toSession

section Upheld

variable {rt : Runtime} {serde : SessionSerde} {sessionId name : String} {clocks : Set Int64}
  {mode : Mode} {P : Session → Prop}

lemma UpheldLog.nil : UpheldLog serde name P [] := fun _ h => absurd h List.not_mem_nil

variable {log : List LogEntry} {entry : LogEntry} {s : Session} {r : ModeResponse} {env : Envelope}
  {mode' : Mode} {h : Host} {rts : Set Runtime}

lemma UpheldLog.append {log' : List LogEntry} (h : UpheldLog serde name P log)
    (h' : UpheldLog serde name P log') : UpheldLog serde name P (log ++ log') := by
  intro e he
  rcases List.mem_append.mp he with hold | hnew
  · exact h e hold
  · exact h' e hnew

lemma UpheldLog.concat (h : UpheldLog serde name P log) (hkind : entry.entryKind ≠ .Checkpoint) :
    UpheldLog serde name P (log ++ [entry]) := by
  refine h.append fun e he hcheck => ?_
  rw [List.mem_singleton.mp he] at hcheck
  exact absurd hcheck hkind

/-- A session with the same state and a policy of JSON upholds it as well. -/
lemma Upheld.congr (hP : mode.Keeps P) {t : Session} (h : Upheld name P s) (hsame : s.SameState t)
    (hpolicy : ∀ d ∈ t.policyDefinition, d.rules.Literal) : Upheld name P t :=
  ⟨hpolicy, fun hname => hP.congr s t hsame (h.holds (hsame.mode ▸ hname))⟩

lemma Upheld.of_bindings (hP : mode.Keeps P) {t : Session} (h : Upheld name P s)
    (hbind : t.bindings = s.bindings) (hstate : t.modeState = s.modeState) : Upheld name P t := by
  have hpol : t.policyDefinition = s.policyDefinition :=
    congrArg (·.policyDefinition) hbind
  exact h.congr hP (.of_bindings hbind hstate) fun d hd => h.policy d (hpol ▸ hd)

/-- What a response leaves of the invariant: the policy, and the property if the response gives
it. -/
lemma Upheld.response (hpolicy : ∀ d ∈ s.policyDefinition, d.rules.Literal)
    (hholds : s.mode = name → P (s.applyModeResponse r)) :
    Upheld name P (s.applyModeResponse r) := by
  have hbind := Session.applyModeResponse_bindings s r
  have hpol : (s.applyModeResponse r).policyDefinition = s.policyDefinition :=
    congrArg (·.policyDefinition) hbind
  have hname : (s.applyModeResponse r).mode = s.mode := congrArg (·.mode) hbind
  exact ⟨fun d hd => hpolicy d (hpol ▸ hd), fun hmode => hholds (hname ▸ hmode)⟩

/-- The response to an authorized message keeps the invariant. -/
lemma Upheld.message (hP : mode.Keeps P) (h : Upheld name P s)
    (hmode : s.mode = name → mode' = mode)
    (hauth : mode' = mode → mode'.authorizeSender s env = .ok ()) {ctx : MessageContext}
    (hmsg : mode'.onMessageAt s env ctx = .ok r) : Upheld name P (s.applyModeResponse r) := by
  refine .response h.policy fun hname => ?_
  obtain rfl := hmode hname
  exact hP.message s env ctx r (hauth rfl) hmsg (h.holds hname)

/-- The checkpoint of a session that upholds it restores one that does. -/
lemma UpheldLog.checkpoint (hserde : serde.KeepsState) (hP : mode.Keeps P) (h : Upheld name P s)
    {raw : Bytes} (hraw : serde.encode (.ofSession s) = some raw) (nowMs : Int64) (discarded : ℕ) :
    UpheldLog serde name P [checkpointEntry s sessionId raw nowMs discarded] := by
  intro entry hentry _ p hp
  rw [List.mem_singleton.mp hentry] at hp
  obtain ⟨policy, rfl, hliteral⟩ :=
    hserde _ _ _ (show ∀ d ∈ s.policyDefinition, _ from h.policy) hraw hp
  exact h.congr hP ⟨rfl, rfl, rfl, rfl, rfl⟩ hliteral

lemma Runtime.Serves.mode_eq (hrt : rt.Serves serde name mode)
    (hmode : rt.registries.modes.instantiate s.mode = .ok mode') (hname : s.mode = name) :
    mode' = mode := by
  rw [hname, hrt.instantiate] at hmode
  exact (Except.ok.inj hmode).symm

/-! ### Writes -/

/-- **One durable write keeps the session and its log.** -/
theorem Write.upheld (hserde : serde.KeepsState) (hrt : rt.Serves serde name mode)
    (hP : mode.Keeps P) (hf : mode.LogFaithful) {p p' : Session × List LogEntry}
    (hw : Write rt sessionId clocks p p') (h : Upheld name P p.1)
    (hlog : UpheldLog serde name P p.2) :
    Upheld name P p'.1 ∧ UpheldLog serde name P p'.2 := by
  cases hw with
  | @expired s _ _ _ =>
    refine ⟨h.of_bindings hP ?_ s.expire_modeState, hlog.concat (by rintro ⟨⟩)⟩
    rw [Session.expire]
    split_ifs <;> rfl
  | cleaned _ _ => exact ⟨h.of_bindings hP rfl rfl, hlog.concat (by rintro ⟨⟩)⟩
  | @synthesized s _ mode' syn nowMs hmode hsyn =>
    obtain ⟨_, _, _, hauth, hmsg⟩ := nextSynthetic_eq_some hsyn
    refine ⟨?_, hlog.concat (by rintro ⟨⟩)⟩
    have hresp := h.message hP (hrt.mode_eq hmode) (fun _ => hauth) hmsg
    obtain ⟨envelope, response⟩ := syn
    exact hresp.of_bindings hP (by cases response <;> rfl) (by cases response <;> rfl)
  | @accepted s _ mode' env response nowMs hmode _ _ _ _ _ hready hmsg =>
    refine ⟨?_, hlog.concat (by rintro ⟨⟩)⟩
    have hresp := h.message hP (hrt.mode_eq hmode) (fun heq => (hready (heq ▸ hf)).2) hmsg
    exact hresp.of_bindings hP (by cases response <;> rfl) (by cases response <;> rfl)
  | @cancelled s _ _ _ _ =>
    refine ⟨h.of_bindings hP ?_ ?_, hlog.concat (by rintro ⟨⟩)⟩
    · rw [Session.cancel]
      split_ifs <;> rfl
    · rw [Session.cancel]
      split_ifs <;> rfl
  | @suspended s _ _ nowMs _ =>
    refine ⟨h.of_bindings hP ?_ (s.suspend_modeState nowMs), hlog.concat (by rintro ⟨⟩)⟩
    rw [Session.suspend]
    split_ifs <;> rfl
  | @resumed s _ _ nowMs _ =>
    exact ⟨h.of_bindings hP (s.resume_bindings nowMs) (s.resume_modeState nowMs),
      hlog.concat (by rintro ⟨⟩)⟩
  | checkpointed nowMs discarded hraw =>
    rw [hrt.serde_eq] at hraw
    exact ⟨h, hlog.append (UpheldLog.checkpoint hserde hP h hraw nowMs discarded)⟩
  | compacted nowMs discarded hraw =>
    rw [hrt.serde_eq] at hraw
    exact ⟨h, UpheldLog.checkpoint hserde hP h hraw nowMs discarded⟩

lemma Writes.upheld (hserde : serde.KeepsState) (hrt : rt.Serves serde name mode)
    (hP : mode.Keeps P) (hf : mode.LogFaithful) {p p' : Session × List LogEntry}
    (hw : Writes rt sessionId clocks p p') (h : Upheld name P p.1)
    (hlog : UpheldLog serde name P p.2) : Upheld name P p'.1 ∧ UpheldLog serde name P p'.2 := by
  induction hw with
  | refl => exact ⟨h, hlog⟩
  | tail _ hwrite ih => exact hwrite.upheld hserde hrt hP hf ih.1 ih.2

/-! ### Replays -/

/-- What a checkpoint restores is what was stored, under the id of the log. -/
lemma restore_eq_some {checkpoint : LogEntry}
    (h : restore serde sessionId checkpoint = .ok (some s)) :
    ∃ p, serde.decode checkpoint.rawPayload = some p
      ∧ s = { p.toSession with sessionId := sessionId } := by
  unfold restore at h
  split at h
  · cases h
  · rename_i p hp
    dsimp only at h
    split_ifs at h
    · cases h
    · exact ⟨p, hp, (Option.some.inj (Except.ok.inj h)).symm⟩

/-- A re-driven envelope keeps the session. -/
lemma Upheld.applyEnvelope (hP : mode.Keeps P) {s' : Session} (h : Upheld name P s)
    (hmode : s.mode = name → mode' = mode) {atMs : Int64} {credit : Bool}
    (henv : applyEnvelope s env atMs credit mode' = .ok s') : Upheld name P s' := by
  have htake (t : Session) (id : String) (ht : Upheld name P t) :
      Upheld name P (takeSlot t id) := by
    refine ht.of_bindings hP (takeSlot_bindings t id) ?_
    rw [takeSlot]
    split_ifs <;> rfl
  unfold MacpRuntime.applyEnvelope at henv
  split at henv
  · cases henv
    exact htake _ _ h
  · split at henv
    · cases henv
    · rename_i hauth
      split at henv
      · cases henv
      · rename_i hmsg
        have hresp := h.message hP hmode (fun _ => hauth) hmsg
        cases henv
        refine htake _ _ ?_
        split_ifs
        · exact hresp.of_bindings hP rfl rfl
        · exact hresp

/-- One replayed entry keeps the session. -/
lemma Upheld.replayEntry (hP : mode.Keeps P) {s' : Session} (h : Upheld name P s)
    (hmode : s.mode = name → mode' = mode) (hentry : replayEntry mode' sessionId s entry = .ok s') :
    Upheld name P s' := by
  have hbind := replayEntry_bindings hentry
  unfold MacpRuntime.replayEntry at hentry
  split at hentry
  · rename_i event _
    cases event with
    | Message env atMs => exact h.applyEnvelope hP hmode hentry
    | Synthetic env => exact h.applyEnvelope hP hmode hentry
    | Suspended atMs =>
      cases hentry
      exact h.of_bindings hP hbind (s.suspend_modeState atMs)
    | Resumed atMs =>
      cases hentry
      exact h.of_bindings hP hbind (s.resume_modeState atMs)
    | Cancelled =>
      cases hentry
      refine h.of_bindings hP hbind ?_
      rw [Session.cancel]
      split_ifs <;> rfl
    | Expired =>
      cases hentry
      exact h.of_bindings hP hbind rfl
  · cases hentry
    exact h

/-- A start gives the invariant, under a policy of the registry. -/
lemma Upheld.of_start (hP : mode.Keeps P) (hpolicy : ∀ d ∈ s.policyDefinition, d.rules.Literal)
    (hmode : s.mode = name → mode' = mode) (hstart : mode'.onSessionStart s env = .ok r)
    (seen : Std.ExtTreeSet String) :
    Upheld name P ({ s with seenMessageIds := seen }.applyModeResponse r) := by
  have hup : Upheld name P (s.applyModeResponse r) := by
    refine .response hpolicy fun hname => ?_
    obtain rfl := hmode hname
    exact hP.start s env r hstart
  exact hup.of_bindings hP (by cases r <;> rfl) (by cases r <;> rfl)

lemma Upheld.of_replayStart (hP : mode.Keeps P) {prost : Prost} {start : RecordedStart}
    (hpolicy : ∀ d ∈ start.policy, d.rules.Literal) (hmode : s.mode = name → mode' = mode)
    (hstart : replayStart prost start mode' = .ok s) : Upheld name P s := by
  obtain ⟨payload, ttlMs, response, hresp, rfl⟩ := replayStart_eq_ok hstart
  refine .of_start hP hpolicy (fun hname => hmode ?_) hresp _
  exact (congrArg Session.Bindings.mode (Session.applyModeResponse_bindings _ response)).trans hname

section

variable (hrt : rt.Serves serde name mode)

include hrt

lemma Runtime.Serves.literal {version : String} {policy : PolicyDefinition}
    (h : rt.registries.policies.resolve version = some policy) : policy.rules.Literal := by
  obtain ⟨policyId, hget⟩ := PolicyRegistry.exists_get_of_resolve h
  exact hrt.policies policyId policy hget

/-- The session a replay goes on from upholds it. -/
lemma replayBase_upheld (hP : mode.Keeps P)
    (hlog : UpheldLog serde name P log) {base : ReplayBase}
    (hbase : replayBase rt.prost rt.serde rt.registries.modes (some rt.registries.policies)
      sessionId log = .ok base) : Upheld name P base.session := by
  have hmode := instantiate_of_replayBase hbase
  unfold replayBase at hbase
  split at hbase
  · cases hbase
  · rename_i restored hcheck
    cases hbase
    obtain ⟨checkpoint, hlast, hrestore, _⟩ := checkpointBase_eq_some hcheck
    obtain ⟨p, hp, hs⟩ := restore_eq_some hrestore
    obtain ⟨hmem, hkind⟩ := lastCheckpoint_mem hlast
    rw [hrt.serde_eq] at hp
    have hup := hlog checkpoint hmem hkind p hp
    rw [hs]
    exact hup.congr hP ⟨rfl, rfl, rfl, rfl, rfl⟩ hup.policy
  · obtain ⟨entry, _, _, _, hstart⟩ := startBase_eq_ok hbase
    exact .of_replayStart hP (fun d hd => hrt.literal hd) (hrt.mode_eq hmode) hstart

/-- **A replay keeps the invariant.** -/
theorem replayLog_upheld (hP : mode.Keeps P) (hlog : UpheldLog serde name P log)
    (h : rt.replayLog sessionId log = .ok s) : Upheld name P s := by
  rw [Runtime.replayLog, replaySession_eq_finish, Except.bind_eq_ok_iff] at h
  obtain ⟨base, hbase, hfinish⟩ := h
  have hmode := instantiate_of_replayBase hbase
  have hinv : s.bindings = base.session.bindings ∧ Upheld name P s := by
    refine ReplayBase.finish_invariant
      (P := fun t => t.bindings = base.session.bindings ∧ Upheld name P t) ?_
      ⟨rfl, replayBase_upheld hrt hP hlog hbase⟩ hfinish
    rintro t t' entry hentry ⟨hbind, hup⟩
    refine ⟨(replayEntry_bindings hentry).trans hbind, hup.replayEntry hP (fun hname => ?_) hentry⟩
    exact hrt.mode_eq hmode ((congrArg (·.mode) hbind).symm.trans hname)
  exact hinv.2

end

/-! ### The host -/

/-- The invariant of the slot and the log of a session id. -/
structure UpheldWorld (serde : SessionSerde) (name : String) (P : Session → Prop) (w : World) :
    Prop where
  session : ∀ s ∈ w.session, Upheld name P s
  log : UpheldLog serde name P w.io.log

/-- A started session upholds it. -/
lemma Started.upheld (hrt : rt.Serves serde name mode) (hP : mode.Keeps P)
    (h : Started rt sessionId s entry) : Upheld name P s ∧ entry.entryKind ≠ .Checkpoint := by
  obtain ⟨env, acceptedAt, v, mode', -, hmode, hv, hs, rfl⟩ := h.exists_start
  obtain ⟨policy, hpolicy, hacc⟩ := acceptStart_eq_ok hv hs
  obtain ⟨version, response, _, hresp, _, rfl⟩ := ValidatedStart.accept_eq_ok hacc
  have hname (heq : (v.bind env version (some policy)).mode = name) : mode' = mode :=
    hrt.mode_eq (s := v.bind env version (some policy)) hmode heq
  have hliteral : ∀ d ∈ (v.bind env version (some policy)).policyDefinition, d.rules.Literal := by
    rintro d ⟨⟩
    exact hrt.literal hpolicy
  exact ⟨.of_start hP hliteral hname hresp _, by rintro ⟨⟩⟩

section

variable (hserde : serde.KeepsState)

include hserde

/-- **One call of the server keeps the invariant.** -/
theorem UpheldWorld.serverOp (hrt : rt.Serves serde name mode) (hP : mode.Keeps P)
    (hf : mode.LogFaithful) {w : World} (h : UpheldWorld serde name P w) (op : ServerOp) :
    UpheldWorld serde name P (op.apply rt sessionId w) := by
  have hstep : World.Step rt sessionId Set.univ w (op.apply rt sessionId w) :=
    op.apply_step fun _ => Set.mem_univ _
  generalize op.apply rt sessionId w = w' at hstep ⊢
  cases hstep with
  | idle hlog _ => exact ⟨h.session, hlog ▸ h.log⟩
  | writes hs hc =>
    obtain ⟨hup, hlog⟩ := hc.writes.upheld hserde hrt hP hf (h.session _ hs) h.log
    exact ⟨fun t ht => (Option.some.inj ht) ▸ hup, hlog⟩
  | started _ hstart hlog _ =>
    obtain ⟨hup, hkind⟩ := hstart.upheld hrt hP
    exact ⟨fun t ht => (Option.some.inj ht) ▸ hup, hlog ▸ h.log.concat hkind⟩

/-- **Whatever happens to a session id keeps the invariant.** -/
theorem UpheldWorld.hostOp (hrt : rt.Serves serde name mode) (hP : mode.Keeps P)
    (hf : mode.LogFaithful) (hk : UpheldWorld serde name P h.world) (op : HostOp) :
    UpheldWorld serde name P (op.apply rt sessionId h).world := by
  have hnone (io : Io) (hlog : UpheldLog serde name P io.log) :
      UpheldWorld serde name P ⟨none, io⟩ :=
    ⟨by rintro _ ⟨⟩, hlog⟩
  cases op with
  | server op saved => exact hk.serverOp hserde hrt hP hf op
  | evictStaleSessions retentionSecs =>
    rw [HostOp.apply, evictStaleSession]
    dsimp only
    split_ifs
    · exact hnone _ hk.log
    · exact ⟨hk.session, hk.log⟩
  | gcDiskSessions retentionSecs listed readable deleted =>
    rw [HostOp.apply, gcDiskSession]
    dsimp only
    split_ifs
    · exact hnone _ .nil
    · exact ⟨hk.session, hk.log⟩
  | restart listed readable saved =>
    rw [HostOp.apply, recoverSession]
    dsimp only
    split
    · exact hnone _ hk.log
    · split
      · exact hnone _ hk.log
      · rename_i s hs
        exact ⟨fun t ht => (Option.some.inj ht) ▸ replayLog_upheld hrt hP hk.log hs, hk.log⟩

lemma Hosted.upheldWorld (hrts : ∀ rt ∈ rts, rt.Serves serde name mode) (hP : mode.Keeps P)
    (hf : mode.LogFaithful) (hh : Hosted rts sessionId h) : UpheldWorld serde name P h.world := by
  induction hh with
  | initial clock wallClock writes => exact ⟨by rintro _ ⟨⟩, .nil⟩
  | apply hrt _ op ih => exact ih.hostOp hserde (hrts _ hrt) hP hf op

/-- **Every session in memory has the property of its mode.** -/
theorem Hosted.upheld (hrts : ∀ rt ∈ rts, rt.Serves serde name mode) (hP : mode.Keeps P)
    (hf : mode.LogFaithful) (hh : Hosted rts sessionId h) (hs : h.world.session = some s)
    (hname : s.mode = name) : P s :=
  ((hh.upheldWorld hserde hrts hP hf).session s hs).holds hname

end

end Upheld

end MacpRuntime
