import MacpRuntime.Server.Faithful
import MacpRuntime.Server.Runtime

/-!
What the server kernel does to a session and its log, one durable write at a time.

* `Write`: one entry appended (or the log compacted) together with the change of the in-memory
  session that goes with it.  `clocks` holds the clock readings at which messages are accepted;
* `ServerOp.apply_step`: a call makes writes, or starts the session;
* `holds_serverRun`: **what every start gives and every write keeps holds along every run**,
  whichever appends failed.
-/

namespace MacpRuntime

section

variable (rt : Runtime) (sessionId : String) (clocks : Set Int64)

/-- One durable write and the session it leaves. -/
inductive Write : Session × List LogEntry → Session × List LogEntry → Prop
  | expired {s : Session} {log : List LogEntry} (nowMs : Int64)
      (hlive : s.state.isTerminal = false) :
      Write (s, log) (s.expire.1, log ++ [makeInternalEntry "TtlExpired" [] sessionId s.mode nowMs])
  | cleaned {s : Session} {log : List LogEntry} (nowMs : Int64) (hopen : s.state = .Open) :
      Write (s, log)
        ({ s with state := .Expired },
          log ++ [makeInternalEntry "TtlExpired" [] sessionId s.mode nowMs])
  | synthesized {s : Session} {log : List LogEntry} {mode : Mode} {syn : Synthetic} (nowMs : Int64)
      (hmode : rt.registries.modes.instantiate s.mode = .ok mode)
      (hsyn : nextSynthetic s mode nowMs = .ok (some syn)) :
      Write (s, log)
        ((commitSynthetic s syn).1,
          log ++ [makeIncomingEntry syn.envelope syn.envelope.timestampUnixMs])
  | accepted {s : Session} {log : List LogEntry} {mode : Mode} {env : Envelope}
      {response : ModeResponse} {nowMs : Int64}
      (hmode : rt.registries.modes.instantiate s.mode = .ok mode) (hclock : nowMs ∈ clocks)
      (hshape : checkEnvelopeShape env = .ok ()) (henv : env.mode = s.mode)
      (hid : env.sessionId = sessionId) (hstart : env.messageType ≠ "SessionStart")
      (hready : mode.LogFaithful → s.state = .Open ∧ mode.authorizeSender s env = .ok ())
      (hmsg : dispatch s env mode nowMs = .ok response) :
      Write (s, log) ((commit s env response nowMs).1, log ++ [makeIncomingEntry env nowMs])
  | cancelled {s : Session} {log : List LogEntry} (payload : Bytes) (nowMs : Int64)
      (hlive : s.state.isTerminal = false) :
      Write (s, log)
        (s.cancel.1, log ++ [makeInternalEntry "SessionCancel" payload sessionId s.mode nowMs])
  | suspended {s : Session} {log : List LogEntry} (payload : Bytes) (nowMs : Int64)
      (hopen : s.state = .Open) :
      Write (s, log)
        ((s.suspend nowMs).1,
          log ++ [makeInternalEntry "SessionSuspend" payload sessionId s.mode nowMs])
  | resumed {s : Session} {log : List LogEntry} (payload : Bytes) (nowMs : Int64)
      (hsusp : s.state = .Suspended) :
      Write (s, log)
        ((s.resume nowMs).1,
          log ++ [makeInternalEntry "SessionResume" payload sessionId s.mode nowMs])
  | checkpointed {s : Session} {log : List LogEntry} {raw : Bytes} (nowMs : Int64) (discarded : ℕ)
      (hraw : rt.serde.encode (.ofSession s) = some raw) :
      Write (s, log) (s, log ++ [checkpointEntry s sessionId raw nowMs discarded])
  | compacted {s : Session} {log : List LogEntry} {raw : Bytes} (nowMs : Int64) (discarded : ℕ)
      (hraw : rt.serde.encode (.ofSession s) = some raw) :
      Write (s, log) (s, [checkpointEntry s sessionId raw nowMs discarded])

/-- Any number of writes. -/
abbrev Writes : Session × List LogEntry → Session × List LogEntry → Prop :=
  Relation.ReflTransGen (Write rt sessionId clocks)

end

section Shape

variable {rt : Runtime} {sessionId : String} {clocks : Set Int64} {p p' : Session × List LogEntry}

/-- A write keeps the bindings; it appends an entry that is no checkpoint, or it writes a
checkpoint and leaves the session alone. -/
lemma Write.shape (h : Write rt sessionId clocks p p') :
    (∃ entry, entry.entryKind ≠ .Checkpoint ∧ p'.2 = p.2 ++ [entry]
        ∧ p'.1.bindings = p.1.bindings)
      ∨ ∃ raw nowMs discarded, rt.serde.encode (.ofSession p.1) = some raw ∧ p'.1 = p.1
        ∧ (p'.2 = p.2 ++ [checkpointEntry p.1 sessionId raw nowMs discarded]
          ∨ p'.2 = [checkpointEntry p.1 sessionId raw nowMs discarded]) := by
  cases h with
  | expired nowMs hlive =>
    refine .inl ⟨_, by rintro ⟨⟩, rfl, ?_⟩
    dsimp only
    rw [Session.expire, if_neg (by simp [hlive])]
    rfl
  | cleaned nowMs _ => exact .inl ⟨_, by rintro ⟨⟩, rfl, rfl⟩
  | synthesized nowMs _ _ =>
    exact .inl ⟨_, by rintro ⟨⟩, rfl, Session.applyModeResponse_bindings _ _⟩
  | accepted => exact .inl ⟨_, by rintro ⟨⟩, rfl, Session.applyModeResponse_bindings _ _⟩
  | cancelled payload nowMs hlive =>
    refine .inl ⟨_, by rintro ⟨⟩, rfl, ?_⟩
    dsimp only
    rw [Session.cancel, if_neg (by simp [hlive])]
    rfl
  | suspended payload nowMs _ =>
    refine .inl ⟨_, by rintro ⟨⟩, rfl, ?_⟩
    dsimp only
    rw [Session.suspend]
    split_ifs <;> rfl
  | resumed payload nowMs _ => exact .inl ⟨_, by rintro ⟨⟩, rfl, Session.resume_bindings _ nowMs⟩
  | checkpointed nowMs discarded hraw => exact .inr ⟨_, nowMs, discarded, hraw, rfl, .inl rfl⟩
  | compacted nowMs discarded hraw => exact .inr ⟨_, nowMs, discarded, hraw, rfl, .inr rfl⟩

end Shape

/-- Every clock reading to come is one of `clocks`. -/
def Io.Clocked (io : Io) (clocks : Set Int64) : Prop := ∀ n, io.clock.get n ∈ clocks

/-- An operation that did nothing but writes. -/
structure Chain (rt : Runtime) (sessionId : String) (clocks : Set Int64) (c c' : Cell) : Prop where
  writes : Writes rt sessionId clocks (c.session, c.io.log) (c'.session, c'.io.log)
  clocked : c'.io.Clocked clocks

section Chains

variable {rt : Runtime} {sessionId : String} {clocks : Set Int64}
  {c : Cell} {io : Io} {entry : LogEntry} {env : Envelope}

lemma Chain.refl (h : c.io.Clocked clocks) : Chain rt sessionId clocks c c := ⟨.refl, h⟩

lemma Chain.trans {c' c'' : Cell} (h : Chain rt sessionId clocks c c')
    (h' : Chain rt sessionId clocks c' c'') : Chain rt sessionId clocks c c'' :=
  ⟨h.writes.trans h'.writes, h'.clocked⟩

/-- An operation that left the session and the durable log alone. -/
lemma Chain.of_same {c' : Cell} (hs : c'.session = c.session) (hlog : c'.io.log = c.io.log)
    (h : c'.io.Clocked clocks) : Chain rt sessionId clocks c c' :=
  ⟨by rw [hs, hlog], h⟩

lemma Io.Clocked.head (h : io.Clocked clocks) : io.clock.head ∈ clocks := h 0

lemma Io.Clocked.nowMs (h : io.Clocked clocks) : io.nowMs.2.Clocked clocks :=
  fun n => h (n + 1)

/-- A successful append with the change of the session that goes with it. -/
lemma Chain.appended {io' : Io} {s' : Session} (hclocked : io.Clocked clocks)
    (heq : io.append entry = (true, io')) (hlog : io.log = c.io.log)
    (hw : Write rt sessionId clocks (c.session, c.io.log) (s', c.io.log ++ [entry])) :
    Chain rt sessionId clocks c ⟨s', io'⟩ := by
  obtain ⟨-, rfl⟩ := Io.append_eq_true heq
  rw [← hlog] at hw
  exact ⟨.single (hlog ▸ hw), hclocked⟩

/-- A failed append changes nothing. -/
lemma Chain.refused {io' : Io} (hclocked : io.Clocked clocks) (heq : io.append entry = (false, io'))
    (hlog : io.log = c.io.log) : Chain rt sessionId clocks c ⟨c.session, io'⟩ := by
  obtain ⟨-, rfl⟩ := Io.append_eq_false heq
  exact .of_same rfl hlog hclocked

/-! ### Checkpoints and compaction -/

section

variable (h : c.io.Clocked clocks)

include h

lemma forceInsertCheckpoint_chain :
    Chain rt sessionId clocks c ⟨c.session, forceInsertCheckpoint rt sessionId c⟩ := by
  rw [forceInsertCheckpoint]
  split
  · exact .refl h
  · rename_i raw hraw
    dsimp only
    rcases happ : c.io.nowMs.2.append (checkpointEntry c.session sessionId raw c.io.nowMs.1 0)
      with ⟨_ | _, io⟩
    · exact .refused h.nowMs happ rfl
    · exact .appended h.nowMs happ rfl (.checkpointed _ 0 hraw)

lemma maybeInsertCheckpoint_chain :
    Chain rt sessionId clocks c ⟨c.session, maybeInsertCheckpoint rt sessionId c⟩ := by
  rw [maybeInsertCheckpoint]
  dsimp only
  split_ifs
  · exact .refl h
  · exact .refl h
  · exact forceInsertCheckpoint_chain h

lemma closeLog_chain : Chain rt sessionId clocks c ⟨c.session, closeLog rt sessionId c⟩ := by
  have hclosing := closeLog_closing rt sessionId c
  generalize closeLog rt sessionId c = io at hclosing ⊢
  cases hclosing with
  | compacted _ hraw _ hentry => exact ⟨.single (hentry ▸ .compacted _ _ hraw), h⟩
  | kept _ => exact forceInsertCheckpoint_chain h
  | failed _ =>
    have hskip : Chain rt sessionId clocks c ⟨c.session,
        { c.io with wallClock := c.io.wallClock.tail, writes := c.io.writes.tail }⟩ :=
      .of_same rfl rfl h
    exact hskip.trans (forceInsertCheckpoint_chain hskip.clocked)

/-! ### The operations -/

lemma maybeExpireSession_chain :
    Chain rt sessionId clocks c (maybeExpireSession sessionId c).1 := by
  rw [maybeExpireSession]
  dsimp only
  split_ifs with hpassed
  · have hlive := c.session.live_of_deadlinePassed hpassed
    split
    · rename_i io heq
      exact .refused h.nowMs heq rfl
    · rename_i io heq
      have hdone : Chain rt sessionId clocks c ⟨c.session.expire.1, io⟩ :=
        .appended h.nowMs heq rfl (.expired _ hlive)
      split
      · rename_i hexp
        rwa [hexp] at hdone
      · rename_i hexp
        rwa [hexp] at hdone
  · exact .of_same rfl rfl h.nowMs

lemma synthesizeDueAccept_chain (nowMs : Int64) :
    Chain rt sessionId clocks c (synthesizeDueAccept rt sessionId c nowMs).1 := by
  rw [synthesizeDueAccept]
  split
  · exact .refl h
  · rename_i mode hmode
    split
    · exact .refl h
    · exact .refl h
    · rename_i syn hsyn
      split
      · rename_i io heq
        exact .refused h heq rfl
      · rename_i io heq
        have hdone : Chain rt sessionId clocks c ⟨(commitSynthetic c.session syn).1, io⟩ :=
          .appended h heq rfl (.synthesized nowMs hmode hsyn)
        exact hdone.trans (maybeInsertCheckpoint_chain hdone.clocked)

end

/-- Under a faithful mode synthesis leaves an open session open and its senders authorized. -/
lemma synthesizeDueAccept_ready {nowMs : Int64} {mode : Mode}
    (hmode : rt.registries.modes.instantiate c.session.mode = .ok mode) (hf : mode.LogFaithful)
    (hopen : c.session.state = .Open) (hauth : mode.authorizeSender c.session env = .ok ()) :
    (synthesizeDueAccept rt sessionId c nowMs).1.session.state = .Open
      ∧ mode.authorizeSender (synthesizeDueAccept rt sessionId c nowMs).1.session env = .ok () := by
  rw [synthesizeDueAccept, hmode]
  dsimp only
  split
  · exact ⟨hopen, hauth⟩
  · exact ⟨hopen, hauth⟩
  · rename_i syn hsyn
    have hem := hf.emission _ _ _ hsyn
    split
    · exact ⟨hopen, hauth⟩
    · exact ⟨hem.open_state, hem.authorizes env hauth⟩

lemma synthesizeDueAccept_bindings (c : Cell) (nowMs : Int64) :
    (synthesizeDueAccept rt sessionId c nowMs).1.session.bindings = c.session.bindings := by
  rw [synthesizeDueAccept]
  split
  · rfl
  · split
    · rfl
    · rfl
    · split
      · rfl
      · exact Session.applyModeResponse_bindings _ _

lemma acceptMessage_chain (h : c.io.Clocked clocks) {mode : Mode}
    {nowMs : Int64} (hmode : rt.registries.modes.instantiate c.session.mode = .ok mode)
    (hclock : nowMs ∈ clocks) (hshape : checkEnvelopeShape env = .ok ())
    (henv : env.mode = c.session.mode) (hstart : env.messageType ≠ "SessionStart")
    (hready : mode.LogFaithful →
      c.session.state = .Open ∧ mode.authorizeSender c.session env = .ok ()) :
    Chain rt env.sessionId clocks c (acceptMessage rt mode env nowMs c).1 := by
  rw [acceptMessage]
  split
  · exact .refl h
  · rename_i response hmsg
    split
    · rename_i io heq
      exact .refused h heq rfl
    · rename_i io heq
      have hdone : Chain rt env.sessionId clocks c ⟨(commit c.session env response nowMs).1, io⟩ :=
        .appended h heq rfl (.accepted hmode hclock hshape henv rfl hstart hready hmsg)
      dsimp only
      split_ifs
      · exact hdone.trans (closeLog_chain hdone.clocked)
      · exact hdone.trans (maybeInsertCheckpoint_chain hdone.clocked)

/-- A message that may proceed is addressed to the session. -/
lemma checkPreconditions_mode {s : Session} {nowMs : Int64}
    (h : checkPreconditions s env nowMs = .ok .Proceed) :
    env.mode = s.mode ∧ env.sessionId = s.sessionId := by
  unfold checkPreconditions at h
  split at h
  · cases h
  · split_ifs at h with h1 h2 h3 h4
    · cases h
    · cases h
    · push Not at h2
      exact h2

section

variable (h : c.io.Clocked clocks)

include h

lemma processMessage_chain (hstart : env.messageType ≠ "SessionStart") :
    Chain rt env.sessionId clocks c (processMessage rt env c).1 := by
  have hnow : Chain rt env.sessionId clocks c { c with io := c.io.nowMs.2 } :=
    .of_same rfl rfl h.nowMs
  rw [processMessage]
  dsimp only
  split
  · exact hnow
  · exact hnow
  · have hexp : Chain rt env.sessionId clocks c
        (maybeExpireSession env.sessionId { c with io := c.io.nowMs.2 }).1 :=
      hnow.trans (maybeExpireSession_chain hnow.clocked)
    split
    · rename_i heq
      rwa [heq] at hexp
    · rename_i heq
      rwa [heq] at hexp
  · rename_i hpre
    split
    · exact hnow
    · rename_i mode hmode
      split
      · exact hnow
      · rename_i hadm
        obtain ⟨hshape, _, _, hopen⟩ := checkPreconditions_eq_proceed hpre
        have hauth := (admitEnvelope_eq_ok hadm).1
        -- the session the due envelope leaves: still in its mode, and ready for the message
        have hsyn : Chain rt env.sessionId clocks { c with io := c.io.nowMs.2 }
            (synthesizeDueAccept rt env.sessionId { c with io := c.io.nowMs.2 } c.io.nowMs.1).1 :=
          synthesizeDueAccept_chain hnow.clocked _
        have hready : mode.LogFaithful → _ ∧ mode.authorizeSender
            (synthesizeDueAccept rt env.sessionId { c with io := c.io.nowMs.2 }
              c.io.nowMs.1).1.session env = .ok () :=
          fun hf => synthesizeDueAccept_ready hmode hf hopen hauth
        have hname : (synthesizeDueAccept rt env.sessionId { c with io := c.io.nowMs.2 }
            c.io.nowMs.1).1.session.mode = c.session.mode :=
          congrArg (·.mode) (synthesizeDueAccept_bindings _ _)
        split
        · rename_i heq
          rw [heq] at hsyn
          exact hnow.trans hsyn
        · rename_i c' _ heq
          rw [heq] at hsyn hready hname
          refine (hnow.trans hsyn).trans
            (acceptMessage_chain hsyn.clocked ?_ h.head hshape ?_ hstart hready)
          · exact (congrArg rt.registries.modes.instantiate hname).trans hmode
          · exact (checkPreconditions_mode hpre).1.trans hname.symm

/-- A control call that first expires an overdue session. -/
lemma cancelSession_chain (reason by' : String) :
    Chain rt sessionId clocks c (cancelSession rt sessionId reason by' c).1 := by
  have hexp : Chain rt sessionId clocks c (maybeExpireSession sessionId c).1 :=
    maybeExpireSession_chain h
  rw [cancelSession]
  split
  · rename_i heq
    rwa [heq] at hexp
  · rename_i c' _ heq
    rw [heq] at hexp
    dsimp only
    split_ifs with hterm
    · exact hexp
    · split
      · rename_i io hio
        exact hexp.trans (.refused hexp.clocked.nowMs hio rfl)
      · rename_i io hio
        have hdone : Chain rt sessionId clocks c' ⟨c'.session.cancel.1, io⟩ :=
          .appended hexp.clocked.nowMs hio rfl (.cancelled _ _ (by simpa using hterm))
        exact (hexp.trans hdone).trans (closeLog_chain hdone.clocked)

lemma suspendSession_chain (reason by' : String) :
    Chain rt sessionId clocks c (suspendSession rt sessionId reason by' c).1 := by
  have hexp : Chain rt sessionId clocks c (maybeExpireSession sessionId c).1 :=
    maybeExpireSession_chain h
  rw [suspendSession]
  split
  · rename_i heq
    rwa [heq] at hexp
  · rename_i c' _ heq
    rw [heq] at hexp
    dsimp only
    split_ifs with hopen
    · exact hexp
    · split
      · rename_i io hio
        exact hexp.trans (.refused hexp.clocked.nowMs hio rfl)
      · rename_i io hio
        have hdone : Chain rt sessionId clocks c' ⟨(c'.session.suspend c'.io.nowMs.1).1, io⟩ :=
          .appended hexp.clocked.nowMs hio rfl (.suspended _ _ (not_not.mp hopen))
        split
        · rename_i hsusp
          rw [hsusp] at hdone
          exact hexp.trans hdone
        · rename_i hsusp
          rw [hsusp] at hdone
          exact hexp.trans hdone

lemma resumeSession_chain (reason by' : String) :
    Chain rt sessionId clocks c (resumeSession rt sessionId reason by' c).1 := by
  rw [resumeSession]
  dsimp only
  split_ifs with hsusp
  · exact .refl h
  · split
    · rename_i io hio
      exact .refused h.nowMs hio rfl
    · rename_i io hio
      have hdone : Chain rt sessionId clocks c ⟨(c.session.resume c.io.nowMs.1).1, io⟩ :=
        .appended h.nowMs hio rfl (.resumed _ _ (not_not.mp hsusp))
      split
      · rename_i hres
        rwa [hres] at hdone
      · rename_i hres
        rwa [hres] at hdone

lemma cleanupExpiredSession_chain :
    Chain rt sessionId clocks c (cleanupExpiredSession rt sessionId c) := by
  rw [cleanupExpiredSession]
  dsimp only
  split_ifs with hskip
  · exact .of_same rfl rfl h.nowMs
  · push Not at hskip
    split
    · rename_i io hio
      exact .refused h.nowMs hio rfl
    · rename_i io hio
      have hdone : Chain rt sessionId clocks c ⟨{ c.session with state := .Expired }, io⟩ :=
        .appended h.nowMs hio rfl (.cleaned _ hskip.1)
      exact hdone.trans (closeLog_chain hdone.clocked)

lemma sweepDueSyntheticAccept_chain :
    Chain rt sessionId clocks c (sweepDueSyntheticAccept rt sessionId c) := by
  have hnow : Chain rt sessionId clocks c ⟨c.session, c.io.nowMs.2⟩ := .of_same rfl rfl h.nowMs
  rw [sweepDueSyntheticAccept]
  dsimp only
  split_ifs
  · exact hnow
  · exact hnow.trans (synthesizeDueAccept_chain hnow.clocked _)

end

end Chains

/-! ### Runs -/

/-- An accepted start with the entry it left. -/
structure Started (rt : Runtime) (sessionId : String) (s : Session) (entry : LogEntry) : Prop where
  exists_start : ∃ env acceptedAt v mode,
    env.sessionId = sessionId
      ∧ rt.registries.modes.instantiate env.mode = .ok mode
      ∧ validateSessionStart rt.prost env acceptedAt (startOptions rt env.mode) = .ok v
      ∧ acceptStart rt env mode v = .ok s ∧ entry = startEntry env acceptedAt v s

/-- What a call does to a session id: it writes to its session and log, it starts it, or
neither. -/
inductive World.Step (rt : Runtime) (sessionId : String) (clocks : Set Int64) (w : World) :
    World → Prop
  | idle {io : Io} (hlog : io.log = w.io.log) (hclk : io.Clocked clocks) :
      World.Step rt sessionId clocks w ⟨w.session, io⟩
  | writes {s : Session} {c : Cell} (hs : w.session = some s)
      (hc : Chain rt sessionId clocks ⟨s, w.io⟩ c) :
      World.Step rt sessionId clocks w ⟨some c.session, c.io⟩
  | started {s : Session} {entry : LogEntry} {io : Io} (hnone : w.session = none)
      (hstart : Started rt sessionId s entry) (hlog : io.log = w.io.log ++ [entry])
      (hclk : io.Clocked clocks) : World.Step rt sessionId clocks w ⟨some s, io⟩

/-- No session and no log, or a session and a log that have the property. -/
def World.Holds (Q : Session × List LogEntry → Prop) (w : World) : Prop :=
  match w.session with
  | none => w.io.log = []
  | some s => Q (s, w.io.log)

/-- A property that every start gives and every write keeps. -/
structure Runtime.Maintains (rt : Runtime) (sessionId : String) (clocks : Set Int64)
    (Q : Session × List LogEntry → Prop) : Prop where
  start : ∀ s entry, Started rt sessionId s entry → Q (s, [entry])
  write : ∀ p p', Write rt sessionId clocks p p' → Q p → Q p'

section Runs

variable {rt : Runtime} {sessionId : String} {clocks : Set Int64}
  {Q : Session × List LogEntry → Prop} {s : Session} {w : World}

lemma World.Holds.session (hw : w.Holds Q) (hs : w.session = some s) : Q (s, w.io.log) := by
  unfold World.Holds at hw
  rwa [hs] at hw

lemma Runtime.Maintains.writes (hQ : rt.Maintains sessionId clocks Q)
    {p p' : Session × List LogEntry} (h : Writes rt sessionId clocks p p') (hp : Q p) : Q p' := by
  induction h with
  | refl => exact hp
  | tail _ hwrite ih => exact hQ.write _ _ hwrite ih

/-- A call on the session's cell. -/
lemma World.onCell_step (hclk : w.io.Clocked clocks) {f : Cell → Cell}
    (hf : ∀ c : Cell, c.io.Clocked clocks → Chain rt sessionId clocks c (f c)) :
    World.Step rt sessionId clocks w (w.onCell f) := by
  rw [World.onCell]
  split
  · exact .idle rfl hclk
  · rename_i s hs
    exact .writes hs (hf ⟨s, w.io⟩ hclk)

/-- Committing an accepted start leaves its entry, or nothing. -/
lemma commitStart_step {env : Envelope} {acceptedAt : Int64} {v : ValidatedStart}
    (hnone : w.session = none) {io : Io} (hlog : io.log = w.io.log) (hclk : io.Clocked clocks)
    (hstart : Started rt sessionId s (startEntry env acceptedAt v s)) :
    World.Step rt sessionId clocks w (commitStart env acceptedAt v s io).1 := by
  have hfailed {io' : Io} (hlog' : io'.log = io.log) (hclk' : io'.Clocked clocks) :
      World.Step rt sessionId clocks w ⟨none, io'⟩ :=
    hnone ▸ World.Step.idle (hlog'.trans hlog) hclk'
  have hwrite : io.write.2.log = io.log ∧ io.write.2.Clocked clocks := ⟨rfl, hclk⟩
  rw [commitStart]
  generalize io.write = r at hwrite ⊢
  obtain ⟨_ | _, io'⟩ := r
  · exact hfailed hwrite.1 hwrite.2
  · dsimp only at hwrite ⊢
    split
    · rename_i io'' heq
      obtain ⟨-, rfl⟩ := Io.append_eq_false heq
      exact hfailed hwrite.1 hwrite.2
    · rename_i io'' heq
      obtain ⟨-, rfl⟩ := Io.append_eq_true heq
      exact .started hnone hstart (by rw [hwrite.1, hlog]) hwrite.2

lemma processSessionStart_step {env : Envelope} (hclk : w.io.Clocked clocks)
    (maxOpenSessions : Option ℕ) (openElsewhere : ℕ) :
    World.Step rt env.sessionId clocks w
      (processSessionStart rt env maxOpenSessions openElsewhere w).1 := by
  have hnow : World.Step rt env.sessionId clocks w ⟨w.session, w.io.nowMs.2⟩ :=
    .idle rfl hclk.nowMs
  rw [processSessionStart]
  split
  · exact .idle rfl hclk
  · split
    · exact .idle rfl hclk
    · split
      · exact .idle rfl hclk
      · rename_i mode hmode
        dsimp only
        split
        · exact hnow
        · rename_i v hv
          split
          · split_ifs <;> exact hnow
          · rename_i hs
            split
            · exact hs ▸ hnow
            · rename_i s hacc
              have hstart : Started rt env.sessionId s (startEntry env w.io.nowMs.1 v s) :=
                ⟨env, w.io.nowMs.1, v, mode, rfl, hmode, hv, hacc, rfl⟩
              split_ifs
              · exact hs ▸ World.Step.idle rfl hclk.nowMs.nowMs
              · exact hs ▸ hnow
              · exact commitStart_step hs rfl hclk.nowMs.nowMs hstart
              · exact commitStart_step hs rfl hclk.nowMs hstart

/-- **What a call does to a session id.** -/
theorem ServerOp.apply_step (hclk : w.io.Clocked clocks) (op : ServerOp) :
    World.Step rt sessionId clocks w (op.apply rt sessionId w) := by
  cases op with
  | process env maxOpenSessions openElsewhere =>
    rw [ServerOp.apply]
    split_ifs with hid hstart
    · exact .idle rfl hclk
    · obtain rfl := not_not.mp hid
      exact processSessionStart_step hclk maxOpenSessions openElsewhere
    · exact .idle rfl hclk
    · obtain rfl := not_not.mp hid
      exact World.onCell_step hclk fun c hc => processMessage_chain hc hstart
  | getSessionChecked => exact World.onCell_step hclk fun c hc => maybeExpireSession_chain hc
  | cancelSession reason by' =>
    exact World.onCell_step hclk fun c hc => cancelSession_chain hc reason by'
  | suspendSession reason by' =>
    exact World.onCell_step hclk fun c hc => suspendSession_chain hc reason by'
  | resumeSession reason by' =>
    exact World.onCell_step hclk fun c hc => resumeSession_chain hc reason by'
  | cleanupExpiredSessions =>
    exact World.onCell_step hclk fun c hc => cleanupExpiredSession_chain hc
  | sweepDueSyntheticAccepts =>
    exact World.onCell_step hclk fun c hc => sweepDueSyntheticAccept_chain hc

/-- **One call keeps what every start gives and every write keeps.** -/
theorem ServerOp.apply_holds (hQ : rt.Maintains sessionId clocks Q) (hw : w.Holds Q)
    (hclk : w.io.Clocked clocks) (op : ServerOp) :
    (op.apply rt sessionId w).Holds Q ∧ (op.apply rt sessionId w).io.Clocked clocks := by
  have hstep : World.Step rt sessionId clocks w (op.apply rt sessionId w) := op.apply_step hclk
  generalize op.apply rt sessionId w = w' at hstep ⊢
  unfold World.Holds at hw
  cases hstep with
  | idle hlog hclk' =>
    refine ⟨?_, hclk'⟩
    unfold World.Holds
    rwa [hlog]
  | writes hs hc =>
    rw [hs] at hw
    exact ⟨hQ.writes hc.writes hw, hc.clocked⟩
  | started hnone hstart hlog hclk' =>
    rw [hnone] at hw
    rw [hw, List.nil_append] at hlog
    refine ⟨?_, hclk'⟩
    unfold World.Holds
    rw [hlog]
    exact hQ.start _ _ hstart

/-- **So does every run.** -/
theorem holds_serverRun (hQ : rt.Maintains sessionId clocks Q) {clock wallClock : Stream' Int64}
    {writes : Stream' Bool} (hclock : ∀ n, clock.get n ∈ clocks) {ops : List ServerOp}
    (hs : (serverRun rt sessionId (.initial clock wallClock writes) ops).session = some s) :
    Q (s, (serverRun rt sessionId (.initial clock wallClock writes) ops).io.log) := by
  have hrun : ∀ (ops : List ServerOp) (w : World), w.Holds Q → w.io.Clocked clocks →
      (serverRun rt sessionId w ops).Holds Q := by
    intro ops
    induction ops with
    | nil => exact fun _ hw _ => hw
    | cons op ops ih =>
      intro w hw hclk
      obtain ⟨hw', hclk'⟩ := op.apply_holds hQ hw hclk
      exact ih _ hw' hclk'
  have hinitial : World.Holds Q (.initial clock wallClock writes) := rfl
  exact (hrun ops _ hinitial hclock).session hs

end Runs

end MacpRuntime
