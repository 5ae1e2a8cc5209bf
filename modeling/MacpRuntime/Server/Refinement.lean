import MacpRuntime.Handoff.Eager
import MacpRuntime.Server.Invariant

/-!
The server kernel refines the library kernel: `process_message` drives the phases of `step` by hand,
with a durable append before every change of the session.

* `Refines`: a call that did what the step does, and appended what it should; checkpoints may come
  between the entries, and the log of a session that was resolved is compacted where the runtime
  does so and no write fails;
* `Drained`: one emission is all a step has to emit.  `Handoff.mode_keeps_fit` and `Hosted.upheld`
  give it for every session in memory;
* `processMessage_cases`: **a call refines the step or is interrupted**, and is interrupted only if
  a write failed.
-/

namespace MacpRuntime

/-! ### A step as the server reports it -/

/-- What the server reports for the outcome of a step on `session`. -/
def stepResult (session : Session) : Except MacpError StepOutcome → Except MacpError ProcessResult
  | .error e => .error e
  | .ok .Duplicate => .ok ⟨session.state, true⟩
  | .ok (.Accepted state _) => .ok ⟨state, false⟩

/-- The entries of synthesized envelopes, in order. -/
def syntheticEntries (synthesized : List Envelope) : List LogEntry :=
  synthesized.map fun e => makeIncomingEntry e e.timestampUnixMs

/-- What a step leaves in the log, without checkpoints: the expiry, or the synthesized envelopes
followed by the accepted one. -/
def stepEntries (session : Session) (env : Envelope) (mode : Mode) (nowMs : Int64) :
    List LogEntry :=
  match checkPreconditions session env nowMs with
  | .error _ => []
  | .ok .Duplicate => []
  | .ok .Expired => [makeInternalEntry "TtlExpired" [] env.sessionId session.mode nowMs]
  | .ok .Proceed =>
    match admitEnvelope session env mode with
    | .error _ => []
    | .ok _ =>
      match advance session mode nowMs with
      | (_, .error _) => []
      | (session, .ok synthesized) =>
        match dispatch session env mode nowMs with
        | .error _ => syntheticEntries synthesized
        | .ok _ => syntheticEntries synthesized ++ [makeIncomingEntry env nowMs]

/-! ### What a call leaves of its storage -/

/-- Every write to come succeeds. -/
def Io.Reliable (io : Io) : Prop := ∀ n, io.writes.get n = true

/-- The entries of a log that are no checkpoints. -/
def withoutCheckpoints (log : List LogEntry) : List LogEntry :=
  log.filter (·.entryKind != .Checkpoint)

/-- The log and its copy grew by `written`. -/
structure Io.Grew (io io' : Io) (written : List LogEntry) : Prop where
  log : io'.log = io.log ++ written
  cache : io'.cache.getD [] = io.cache.getD [] ++ written
  reliable : io.Reliable → io'.Reliable

lemma Io.Grew.refl (io : Io) : io.Grew io [] :=
  ⟨(List.append_nil _).symm, (List.append_nil _).symm, id⟩

lemma Io.Grew.trans {io₁ io₂ io₃ : Io} {written written' : List LogEntry}
    (h : io₁.Grew io₂ written) (h' : io₂.Grew io₃ written') :
    io₁.Grew io₃ (written ++ written') :=
  ⟨by rw [h'.log, h.log, List.append_assoc], by rw [h'.cache, h.cache, List.append_assoc],
    fun hr => h'.reliable (h.reliable hr)⟩

lemma Io.Grew.nowMs {io io' : Io} {written : List LogEntry} (h : io.nowMs.2.Grew io' written) :
    io.Grew io' written := ⟨h.log, h.cache, h.reliable⟩

/-- A successful append. -/
lemma Io.grew_of_append {io io' : Io} {entry : LogEntry} (h : io.append entry = (true, io')) :
    io.Grew io' [entry] := by
  obtain ⟨-, rfl⟩ := Io.append_eq_true h
  exact ⟨rfl, rfl, fun hr n => hr (n + 1)⟩

/-- A failed append leaves the log alone, and the writes were not reliable. -/
lemma Io.append_refused {io io' : Io} {entry : LogEntry} (h : io.append entry = (false, io')) :
    io.Grew io' [] ∧ ¬ io.Reliable := by
  obtain ⟨hok, rfl⟩ := Io.append_eq_false h
  exact ⟨⟨(List.append_nil _).symm, (List.append_nil _).symm, fun hr n => hr (n + 1)⟩,
    fun hr => Bool.false_ne_true (hok.symm.trans (hr 0))⟩

@[simp] lemma withoutCheckpoints_append (log log' : List LogEntry) :
    withoutCheckpoints (log ++ log') = withoutCheckpoints log ++ withoutCheckpoints log' :=
  List.filter_append ..

/-! ### Checkpoints and compaction -/

section Calls

variable {rt : Runtime} {sessionId : String} {mode : Mode} {s : Session} {env : Envelope}
  {nowMs : Int64}

/-- Inserting a checkpoint adds nothing but checkpoints. -/
lemma forceInsertCheckpoint_grew (rt : Runtime) (sessionId : String) (c : Cell) :
    ∃ written, c.io.Grew (forceInsertCheckpoint rt sessionId c) written
      ∧ withoutCheckpoints written = [] := by
  rw [forceInsertCheckpoint]
  split
  · exact ⟨[], .refl _, rfl⟩
  · rename_i raw _
    dsimp only
    rcases happend : c.io.nowMs.2.append (checkpointEntry c.session sessionId raw c.io.nowMs.1 0)
      with ⟨_ | _, io⟩
    · exact ⟨[], (Io.append_refused happend).1.nowMs, rfl⟩
    · exact ⟨_, (Io.grew_of_append happend).nowMs, rfl⟩

lemma maybeInsertCheckpoint_grew (rt : Runtime) (sessionId : String) (c : Cell) :
    ∃ written, c.io.Grew (maybeInsertCheckpoint rt sessionId c) written
      ∧ withoutCheckpoints written = [] := by
  rw [maybeInsertCheckpoint]
  dsimp only
  split_ifs
  · exact ⟨[], .refl _, rfl⟩
  · exact ⟨[], .refl _, rfl⟩
  · exact forceInsertCheckpoint_grew rt sessionId c

/-- Closing the log of a cell replaced it by one checkpoint, which remembers how many accepted
ordinals the log held. -/
def CompactedTo (rt : Runtime) (sessionId : String) (session : Session)
    (entries log : List LogEntry) : Prop :=
  rt.compactTerminalLogs = true ∧ ∃ raw atMs, rt.serde.encode (.ofSession session) = some raw
    ∧ log = [checkpointEntry session sessionId raw atMs (discardedOrdinals (some entries))]

/-- The runtime does not compact the log of a session: it compacts none, or cannot store it. -/
def Runtime.KeepsLog (rt : Runtime) (session : Session) : Prop :=
  rt.compactTerminalLogs = true → rt.serde.encode (.ofSession session) = none

lemma discardedOrdinals_getD (cache : Option (List LogEntry)) :
    discardedOrdinals (some (cache.getD [])) = discardedOrdinals cache := by
  cases cache <;> rfl

/-- Closing a log compacts it, or adds nothing but checkpoints: the latter with reliable writes
only where logs are kept. -/
lemma closeLog_cases (rt : Runtime) (sessionId : String) (c : Cell) :
    CompactedTo rt sessionId c.session (c.io.cache.getD []) (closeLog rt sessionId c).log
      ∨ ∃ written, c.io.Grew (closeLog rt sessionId c) written ∧ withoutCheckpoints written = []
        ∧ (c.io.Reliable → rt.KeepsLog c.session) := by
  have hclosing := closeLog_closing rt sessionId c
  generalize closeLog rt sessionId c = io at hclosing ⊢
  cases hclosing with
  | compacted hcompact hraw _ hentry =>
    refine .inl ⟨hcompact, _, c.io.wallClock.head, hraw, ?_⟩
    rw [hentry, discardedOrdinals_getD]
  | kept hkept =>
    obtain ⟨written, hgrew, hnone⟩ := forceInsertCheckpoint_grew rt sessionId c
    exact .inr ⟨written, hgrew, hnone, fun _ => hkept⟩
  | failed hfailed =>
    have hunreliable : ¬ c.io.Reliable := fun hr => Bool.false_ne_true (hfailed.symm.trans (hr 0))
    obtain ⟨written, hgrew, hnone⟩ := forceInsertCheckpoint_grew rt sessionId
      ⟨c.session, { c.io with wallClock := c.io.wallClock.tail, writes := c.io.writes.tail }⟩
    exact .inr ⟨written, ⟨hgrew.log, hgrew.cache, fun hr => absurd hr hunreliable⟩, hnone,
      fun hr => absurd hr hunreliable⟩

/-! ### Messages -/

/-- One emission is all a step has to emit. -/
inductive Drained (mode : Mode) (s : Session) (nowMs : Int64) : Prop
  | quiet (hsyn : nextSynthetic s mode nowMs = .ok none)
  | emits {syn : Synthetic} (hsyn : nextSynthetic s mode nowMs = .ok (some syn))
      (hnext : nextSynthetic (commitSynthetic s syn).1 mode nowMs = .ok none)

/-- The log after a call that wrote `written`: they are at its end; or the call resolved the
session, and one checkpoint is the log.  The former with reliable writes only if the session is not
resolved or its log is kept. -/
inductive Leaves (rt : Runtime) (sessionId : String) (io : Io) (written : List LogEntry)
    (r : Cell × Except MacpError ProcessResult) : Prop
  | grown (hlog : r.1.io.log = io.log ++ written)
      (hkept : r.2 = .ok ⟨.Resolved, false⟩ → io.Reliable → rt.KeepsLog r.1.session)
  | compacted (hresolved : r.2 = .ok ⟨.Resolved, false⟩)
      (hlog : CompactedTo rt sessionId r.1.session (io.cache.getD [] ++ written) r.1.io.log)

/-- What was written before a call comes before what the call wrote. -/
lemma Leaves.after {io io' : Io} {written written' : List LogEntry}
    {r : Cell × Except MacpError ProcessResult} (hgrew : io.Grew io' written)
    (h : Leaves rt sessionId io' written' r) : Leaves rt sessionId io (written ++ written') r := by
  cases h with
  | grown hlog hkept =>
    refine .grown ?_ fun hresolved hr => hkept hresolved (hgrew.reliable hr)
    rw [hlog, hgrew.log, List.append_assoc]
  | compacted hresolved hlog =>
    refine .compacted hresolved ?_
    rw [← List.append_assoc, ← hgrew.cache]
    exact hlog

/-- A call on the session `s` that did what the step does.  The entries it wrote are those of the
step with checkpoints between them. -/
structure Refines (rt : Runtime) (mode : Mode) (env : Envelope) (nowMs : Int64) (s : Session)
    (io : Io) (r : Cell × Except MacpError ProcessResult) : Prop where
  session : r.1.session = (step s env mode nowMs).1
  result : r.2 = stepResult s (step s env mode nowMs).2
  log : ∃ written, withoutCheckpoints written = stepEntries s env mode nowMs
    ∧ Leaves rt env.sessionId io written r

/-- A call on the session `s` that a failed append stopped: the session is the one before, or the
one that a synthesized envelope left whose own append succeeded. -/
structure Interrupted (mode : Mode) (nowMs : Int64) (s : Session) (io : Io)
    (r : Cell × Except MacpError ProcessResult) : Prop where
  result : r.2 = .error .StorageFailed
  left : r.1.session = s ∧ r.1.io.log = io.log
    ∨ ∃ syn written, nextSynthetic s mode nowMs = .ok (some syn)
      ∧ r.1.session = (commitSynthetic s syn).1
      ∧ withoutCheckpoints written = syntheticEntries [syn.envelope]
      ∧ r.1.io.log = io.log ++ written

/-- Expiring an overdue session appends the expiry, or the append failed. -/
lemma maybeExpireSession_cases (sessionId : String) {io : Io}
    (hpassed : s.deadlinePassed io.clock.head = true) :
    (∃ io', maybeExpireSession sessionId ⟨s, io⟩ = (⟨s.expire.1, io'⟩, .ok true)
        ∧ io.Grew io' [makeInternalEntry "TtlExpired" [] sessionId s.mode io.clock.head])
      ∨ ∃ io', maybeExpireSession sessionId ⟨s, io⟩ = (⟨s, io'⟩, .error .StorageFailed)
        ∧ io.Grew io' [] ∧ ¬ io.Reliable := by
  have hlive := s.live_of_deadlinePassed hpassed
  have hexp : s.expire = (s.expire.1, .ok ()) := by
    rw [Session.expire, if_neg (by simp [hlive])]
  rw [maybeExpireSession]
  dsimp only [Io.nowMs]
  rw [if_pos hpassed]
  rcases happend : Io.append { io with clock := io.clock.tail }
      (makeInternalEntry "TtlExpired" [] sessionId s.mode io.clock.head) with ⟨_ | _, io'⟩
  · obtain ⟨hgrew, hfailed⟩ := Io.append_refused happend
    exact .inr ⟨io', rfl, ⟨hgrew.log, hgrew.cache, hgrew.reliable⟩, hfailed⟩
  · have hgrew := Io.grew_of_append happend
    refine .inl ⟨io', ?_, ⟨hgrew.log, hgrew.cache, hgrew.reliable⟩⟩
    rw [hexp]

/-- What the server's emission does to a drained session: what `advance` does, or its append
failed. -/
lemma synthesizeDueAccept_cases (sessionId : String)
    (hmode : rt.registries.modes.instantiate s.mode = .ok mode)
    (hdrained : Drained mode s nowMs) (io : Io) :
    (∃ t emitted io' appended written,
        synthesizeDueAccept rt sessionId ⟨s, io⟩ nowMs = (⟨t, io'⟩, .ok appended)
        ∧ advance s mode nowMs = (t, .ok emitted) ∧ io.Grew io' written
        ∧ withoutCheckpoints written = syntheticEntries emitted
        ∧ (t = s ∧ written = [] ∨ ∃ syn, nextSynthetic s mode nowMs = .ok (some syn)
            ∧ t = (commitSynthetic s syn).1 ∧ emitted = [syn.envelope]))
      ∨ ∃ io', synthesizeDueAccept rt sessionId ⟨s, io⟩ nowMs = (⟨s, io'⟩, .error .StorageFailed)
        ∧ io.Grew io' [] ∧ ¬ io.Reliable := by
  cases hdrained with
  | quiet hsyn =>
    refine .inl ⟨s, [], io, false, [], ?_, advance_of_none hsyn, .refl io, rfl, .inl ⟨rfl, rfl⟩⟩
    simp only [synthesizeDueAccept, hmode, hsyn]
  | @emits syn hsyn hnext =>
    rcases happend : io.append (makeIncomingEntry syn.envelope syn.envelope.timestampUnixMs)
      with ⟨_ | _, io'⟩
    · refine .inr ⟨io', ?_, Io.append_refused happend⟩
      simp only [synthesizeDueAccept, hmode, hsyn, happend]
    · obtain ⟨written, hgrew, hnone⟩ := maybeInsertCheckpoint_grew rt sessionId
        ⟨(commitSynthetic s syn).1, io'⟩
      refine .inl ⟨_, [syn.envelope], _, true, _, ?_, advance_of_last hsyn hnext,
        (Io.grew_of_append happend).trans hgrew, ?_, .inr ⟨syn, hsyn, rfl, rfl⟩⟩
      · simp only [synthesizeDueAccept, hmode, hsyn, happend]
      · rw [withoutCheckpoints_append, hnone]
        rfl

/-- What the server's acceptance does once the session is drained: dispatch and commit, or its
append failed. -/
lemma acceptMessage_cases (rt : Runtime) {response : ModeResponse}
    (hmsg : dispatch s env mode nowMs = .ok response) (io : Io) :
    (∃ io' written, acceptMessage rt mode env nowMs ⟨s, io⟩
          = (⟨(commit s env response nowMs).1, io'⟩, .ok ⟨(commit s env response nowMs).2, false⟩)
        ∧ withoutCheckpoints written = [makeIncomingEntry env nowMs]
        ∧ Leaves rt env.sessionId io written
          (⟨(commit s env response nowMs).1, io'⟩, .ok ⟨(commit s env response nowMs).2, false⟩))
      ∨ ∃ io', acceptMessage rt mode env nowMs ⟨s, io⟩ = (⟨s, io'⟩, .error .StorageFailed)
        ∧ io.Grew io' [] ∧ ¬ io.Reliable := by
  rw [acceptMessage]
  dsimp only
  rw [hmsg]
  dsimp only
  rcases happend : io.append (makeIncomingEntry env nowMs) with ⟨_ | _, io₁⟩
  · exact .inr ⟨io₁, rfl, Io.append_refused happend⟩
  have hgrew := Io.grew_of_append happend
  have hentry : withoutCheckpoints [makeIncomingEntry env nowMs] = [makeIncomingEntry env nowMs] :=
    rfl
  by_cases hresolved : (commit s env response nowMs).2 = .Resolved
  · rcases closeLog_cases rt env.sessionId ⟨(commit s env response nowMs).1, io₁⟩ with
      hcompact | ⟨written, hclosed, hnone, hkept⟩
    · refine .inl ⟨_, [makeIncomingEntry env nowMs], rfl, hentry, .compacted (by rw [hresolved]) ?_⟩
      rw [if_pos hresolved, ← hgrew.cache]
      exact hcompact
    · refine .inl ⟨_, [makeIncomingEntry env nowMs] ++ written, rfl, ?_, ?_⟩
      · rw [withoutCheckpoints_append, hnone, hentry, List.append_nil]
      · rw [if_pos hresolved]
        exact .grown (hgrew.trans hclosed).log fun _ hr => hkept (hgrew.reliable hr)
  · obtain ⟨written, hinserted, hnone⟩ := maybeInsertCheckpoint_grew rt env.sessionId
      ⟨(commit s env response nowMs).1, io₁⟩
    refine .inl ⟨_, [makeIncomingEntry env nowMs] ++ written, rfl, ?_, ?_⟩
    · rw [withoutCheckpoints_append, hnone, hentry, List.append_nil]
    · rw [if_neg hresolved]
      refine .grown (hgrew.trans hinserted).log fun heq => absurd ?_ hresolved
      exact congrArg ProcessResult.sessionState (Except.ok.inj heq)

/-- A call that changed nothing refines a step that changes nothing. -/
lemma Refines.of_same {outcome : Except MacpError StepOutcome}
    (hstep : step s env mode nowMs = (s, outcome)) (hentries : stepEntries s env mode nowMs = [])
    (hresult : stepResult s outcome ≠ .ok ⟨.Resolved, false⟩) (io : Io) :
    Refines rt mode env nowMs s io (⟨s, io.nowMs.2⟩, stepResult s outcome) where
  session := by rw [hstep]
  result := by rw [hstep]
  log := ⟨[], hentries.symm, .grown (List.append_nil _).symm fun h => absurd h hresult⟩

/-- The part of a call that follows the prechecks. -/
lemma admitted_cases (hmode : rt.registries.modes.instantiate s.mode = .ok mode)
    (hdrained : Drained mode s nowMs) (hpre : checkPreconditions s env nowMs = .ok .Proceed)
    (hadm : admitEnvelope s env mode = .ok ()) (io : Io)
    {r : Cell × Except MacpError ProcessResult}
    (hr : r = match synthesizeDueAccept rt env.sessionId ⟨s, io⟩ nowMs with
      | (c, .error e) => (c, .error e)
      | (c, .ok _) => acceptMessage rt mode env nowMs c) :
    Refines rt mode env nowMs s io r ∨ Interrupted mode nowMs s io r ∧ ¬ io.Reliable := by
  rcases synthesizeDueAccept_cases env.sessionId hmode hdrained io with
    ⟨t, emitted, io₁, appended, written, hsyn, hadv, hgrew, hwritten, hleft⟩
      | ⟨io₁, hsyn, hgrew, hfailed⟩
  · rw [hsyn] at hr
    dsimp only at hr
    rcases hmsg : dispatch t env mode nowMs with e | response
    · have hstep : step s env mode nowMs = (t, .error e) := by
        simp only [step, hpre, hadm, hadv, hmsg]
      have hentries : stepEntries s env mode nowMs = syntheticEntries emitted := by
        simp only [stepEntries, hpre, hadm, hadv, hmsg]
      have hacc : acceptMessage rt mode env nowMs ⟨t, io₁⟩ = (⟨t, io₁⟩, .error e) := by
        simp only [acceptMessage, hmsg]
      rw [hacc] at hr
      subst hr
      exact .inl ⟨by rw [hstep], by rw [hstep]; rfl, written, hwritten.trans hentries.symm,
        .grown hgrew.log fun h => (by cases h)⟩
    · have hstep : step s env mode nowMs = ((commit t env response nowMs).1,
          .ok (.Accepted (commit t env response nowMs).2 emitted)) := by
        simp only [step, hpre, hadm, hadv, hmsg]
      have hentries : stepEntries s env mode nowMs
          = syntheticEntries emitted ++ [makeIncomingEntry env nowMs] := by
        simp only [stepEntries, hpre, hadm, hadv, hmsg]
      rcases acceptMessage_cases rt hmsg io₁ with
        ⟨io₂, written₂, hacc, hwritten₂, hlog⟩ | ⟨io₂, hacc, hgrew₂, hfailed⟩
      · rw [hacc] at hr
        subst hr
        refine .inl ⟨by rw [hstep], by rw [hstep]; rfl, written ++ written₂, ?_, hlog.after hgrew⟩
        rw [withoutCheckpoints_append, hwritten, hwritten₂, hentries]
      · rw [hacc] at hr
        subst hr
        refine .inr ⟨⟨rfl, ?_⟩, fun hr => hfailed (hgrew.reliable hr)⟩
        have hlog : io₂.log = io.log ++ written := by
          rw [hgrew₂.log, hgrew.log, List.append_nil]
        rcases hleft with ⟨rfl, rfl⟩ | ⟨syn, hnext, rfl, rfl⟩
        · exact .inl ⟨rfl, hlog.trans (List.append_nil _)⟩
        · exact .inr ⟨syn, written, hnext, rfl, hwritten, hlog⟩
  · rw [hsyn] at hr
    subst hr
    exact .inr ⟨⟨rfl, .inl ⟨rfl, hgrew.log.trans (List.append_nil _)⟩⟩, hfailed⟩

/-- **A call refines the step or is interrupted**, and is interrupted only if a write failed. -/
theorem processMessage_cases (hmode : rt.registries.modes.instantiate s.mode = .ok mode)
    (hdrained : Drained mode s nowMs) {io : Io} (hclock : io.Clocked {nowMs}) :
    Refines rt mode env nowMs s io (processMessage rt env ⟨s, io⟩)
      ∨ Interrupted mode nowMs s io (processMessage rt env ⟨s, io⟩) ∧ ¬ io.Reliable := by
  have hnow : io.nowMs = (nowMs, io.nowMs.2) := Prod.ext hclock.head rfl
  rw [processMessage]
  dsimp only
  rw [hnow]
  dsimp only
  rcases hpre : checkPreconditions s env nowMs with e | verdict
  · have hstep : step s env mode nowMs = (s, .error e) := by simp only [step, hpre]
    have hentries : stepEntries s env mode nowMs = [] := by simp only [stepEntries, hpre]
    exact .inl (.of_same hstep hentries (fun h => by cases h) io)
  cases verdict with
  | Duplicate =>
    have hstep : step s env mode nowMs = (s, .ok .Duplicate) := by simp only [step, hpre]
    have hentries : stepEntries s env mode nowMs = [] := by simp only [stepEntries, hpre]
    exact .inl (.of_same hstep hentries (by simp [stepResult]) io)
  | Expired =>
    have hpassed := checkPreconditions_eq_expired hpre
    have hlive := s.live_of_deadlinePassed hpassed
    have hstep : step s env mode nowMs = (s.expire.1, .error .TtlExpired) := by
      simp only [step, hpre]
      rw [Session.expire, if_neg (by simp [hlive])]
    have hentries : stepEntries s env mode nowMs
        = [makeInternalEntry "TtlExpired" [] env.sessionId s.mode nowMs] := by
      simp only [stepEntries, hpre]
    have hhead : io.nowMs.2.clock.head = nowMs := hclock 1
    rcases maybeExpireSession_cases env.sessionId (hhead ▸ hpassed) with
      ⟨io', hexp, hgrew⟩ | ⟨io', hexp, hgrew, hfailed⟩
    · rw [hhead] at hgrew
      rw [hexp]
      exact .inl ⟨by rw [hstep], by rw [hstep]; rfl, _, by rw [hentries]; rfl,
        .grown hgrew.nowMs.log fun h => (by cases h)⟩
    · rw [hexp]
      exact .inr ⟨⟨rfl, .inl ⟨rfl, hgrew.nowMs.log.trans (List.append_nil _)⟩⟩, hfailed⟩
  | Proceed =>
    dsimp only
    rw [hmode]
    dsimp only
    rcases hadm : admitEnvelope s env mode with e | _
    · have hstep : step s env mode nowMs = (s, .error e) := by simp only [step, hpre, hadm]
      have hentries : stepEntries s env mode nowMs = [] := by
        simp only [stepEntries, hpre, hadm]
      exact .inl (.of_same hstep hentries (fun h => by cases h) io)
    · -- reading the clock changes neither the log nor the writes to come
      have hcall := admitted_cases hmode hdrained hpre hadm io.nowMs.2 rfl
      refine hcall.imp (fun h => ⟨h.session, h.result, ?_⟩) (.imp (fun h => ⟨h.result, h.left⟩) id)
      obtain ⟨written, hwritten, hleaves⟩ := h.log
      exact ⟨written, hwritten, hleaves.after (Io.Grew.refl io.nowMs.2).nowMs⟩

end Calls

/-! ### Every session in memory is drained by one emission -/

namespace Handoff

variable {d : Deps}

/-- A handoff session whose revision emits envelopes is sound. -/
def Fit (d : Deps) (s : Session) : Prop := 2 ≤ s.semanticsRev → Sound d s

/-- Safety reads the participants and the initiator only. -/
lemma State.Safe.congr {st : State} {b b' : Session.Bindings} (h : st.Safe b)
    (hparticipants : b'.participants = b.participants)
    (hinitiator : b'.initiatorSender = b.initiatorSender) : st.Safe b' :=
  ⟨h.keyed, h.single, h.signed, fun k o hget => by
    rw [hparticipants, hinitiator]
    exact h.target k o hget⟩

/-- **The handoff mode keeps its sessions sound**, whatever clock their messages carry. -/
theorem mode_keeps_fit (d : Deps) : (mode d).Keeps (Fit d) where
  congr s t hsame hfit hrev := by
    obtain ⟨_, st, hst, hsafe⟩ := hfit (hsame.semanticsRev ▸ hrev)
    exact ⟨hrev, st, (decodeState_congr hsame.modeState).trans hst,
      hsafe.congr hsame.participants hsame.initiatorSender⟩
  start s env r h hrev := by
    simp only [mode, onSessionStart] at h
    split_ifs at h
    cases h
    exact ⟨hrev, .default, decodeState_of_encoded rfl, State.default_safe _⟩
  message s env ctx r hauth hmsg hfit hrev := by
    have hbind := Session.applyModeResponse_bindings s r
    have hrev' : 2 ≤ s.semanticsRev :=
      hrev.trans_eq (congrArg (·.semanticsRev) hbind)
    have hsound := hfit hrev'
    obtain ⟨st, hst, hsafe⟩ := hsound.safe
    obtain ⟨st', hst', hch⟩ := change_of_onMessageAt hrev' hst hmsg s
    exact hsound.of_bindings hbind hst' (hch.safe (authorizeSender_offer hauth) hsafe)

lemma Fit.drained {s : Session} (h : Fit d s) (nowMs : Int64) : Drained (mode d) s nowMs := by
  by_cases hrev : 2 ≤ s.semanticsRev
  · cases (h hrev).advanced nowMs with
    | quiet hsyn => exact .quiet hsyn
    | emitted _ _ hsyn hnext => exact .emits hsyn hnext
  · exact .quiet (nextSynthetic_of_not_due (dueSyntheticEnvelope_of_rev (Nat.not_le.mp hrev) nowMs))

end Handoff

/-- A session of a built-in mode that is in memory has one envelope to emit at most. -/
lemma Builtin.drained {mode : Mode} (hb : Builtin mode) {serde : SessionSerde}
    (hserde : serde.KeepsState) {name : String} {rts : Set Runtime}
    (hrts : ∀ rt ∈ rts, rt.Serves serde name mode) {sessionId : String} {h : Host}
    (hh : Hosted rts sessionId h) {s : Session} (hs : h.world.session = some s)
    (hname : s.mode = name) (nowMs : Int64) : Drained mode s nowMs := by
  rcases hb.handoff_or_silent with ⟨d, rfl⟩ | hsilent
  · have hfit := hh.upheld hserde hrts (Handoff.mode_keeps_fit d)
      (Handoff.mode_logFaithful d) hs hname
    exact hfit.drained nowMs
  · exact .quiet (nextSynthetic_of_not_due (hsilent s nowMs))

/-- **The server kernel refines the library kernel**: a message to a session of a built-in mode
that is in memory, at a clock that does not move, does what the step does and appends its entries
(where the runtime compacts logs, a checkpoint then replaces the log of a resolved session); or an
append of one of them failed, and the session is the one before, up to a synthesized envelope that
was appended.  If every write succeeds, it does what the step does. -/
theorem processMessage_refines_step {mode : Mode} (hb : Builtin mode) {serde : SessionSerde}
    (hserde : serde.KeepsState) {name : String} {rts : Set Runtime}
    (hrts : ∀ rt ∈ rts, rt.Serves serde name mode) {sessionId : String}
    {h : Host} (hh : Hosted rts sessionId h) {s : Session} (hs : h.world.session = some s)
    (hname : s.mode = name) {rt : Runtime} (hrt : rt ∈ rts) (env : Envelope) {nowMs : Int64}
    {io : Io} (hclock : io.Clocked {nowMs}) :
    (Refines rt mode env nowMs s io (processMessage rt env ⟨s, io⟩)
        ∨ Interrupted mode nowMs s io (processMessage rt env ⟨s, io⟩))
      ∧ (io.Reliable → Refines rt mode env nowMs s io (processMessage rt env ⟨s, io⟩)) := by
  have hmode : rt.registries.modes.instantiate s.mode = .ok mode :=
    hname ▸ (hrts rt hrt).instantiate
  rcases processMessage_cases hmode (hb.drained hserde hrts hh hs hname nowMs) hclock with
    hrefines | ⟨hstopped, hfailed⟩
  · exact ⟨.inl hrefines, fun _ => hrefines⟩
  · exact ⟨.inr hstopped, fun hr => absurd hr hfailed⟩

/-! ### A checkpoint that fails -/

/-- The sample runtime with a codec that prints and parses the floats of the policies, checkpoints
and compaction. -/
def floatingRuntime (checkpointInterval : ℕ) : Runtime :=
  { sampleRuntime with
    serde := jsonSessionOf shortestDecimal
    checkpointInterval := checkpointInterval
    compactTerminalLogs := true }

lemma floatingRuntime_serves {rt : Runtime} (hrt : rt ∈ Set.range floatingRuntime) :
    rt.Serves (jsonSessionOf shortestDecimal) "macp.mode.handoff.v1"
      (Handoff.mode Handoff.deps) := by
  obtain ⟨interval, rfl⟩ := hrt
  refine ⟨rfl, fun policyId policy h => ?_, rfl⟩
  have hget : (floatingRuntime interval).registries.policies.get policyId
      = if compare "p" policyId = .eq then some Handoff.samplePolicy else none := by
    rw [PolicyRegistry.get, floatingRuntime, sampleRuntime]
    dsimp only
    rw [Std.ExtTreeMap.getElem?_insert, Std.ExtTreeMap.getElem?_empty]
  rw [hget] at h
  split_ifs at h
  obtain rfl := Option.some.inj h
  exact ⟨trivial, ⟨trivial, trivial, trivial⟩, trivial⟩

/-- The id of the sample session, started at clock 10 on a storage that never fails. -/
def startedHost : Host :=
  sampleHostStart.apply (floatingRuntime 0) sampleId
    (.initial (fun _ => 10) (fun _ => 0) fun _ => true)

lemma startedHost_hosted : Hosted (Set.range floatingRuntime) sampleId startedHost :=
  .apply (Set.mem_range_self 0) (.initial _ _ _) sampleHostStart

lemma startedHost_session :
    startedHost.world.session = some (Handoff.sampleSession 10) := rfl

theorem processMessage_refines_step_sample :
    Refines (floatingRuntime 1) (Handoff.mode Handoff.deps) Handoff.sampleOffer 10
      (Handoff.sampleSession 10) startedHost.world.io
      (processMessage (floatingRuntime 1) Handoff.sampleOffer
        ⟨Handoff.sampleSession 10, startedHost.world.io⟩) :=
  (processMessage_refines_step (.handoff Handoff.deps) (jsonSessionOf_keepsState _)
    (fun _ => floatingRuntime_serves) startedHost_hosted startedHost_session rfl
    (Set.mem_range_self 1) Handoff.sampleOffer fun _ => rfl).2 fun _ => rfl

lemma processMessage_checkpointed {rt : Runtime} {mode : Mode} {s : Session} {env : Envelope}
    {nowMs : Int64} {io : Io} {response : ModeResponse} {raw : Bytes}
    (hmode : rt.registries.modes.instantiate s.mode = .ok mode) (hclock : io.clock.head = nowMs)
    (hpre : checkPreconditions s env nowMs = .ok .Proceed)
    (hadm : admitEnvelope s env mode = .ok ()) (hsyn : nextSynthetic s mode nowMs = .ok none)
    (hmsg : dispatch s env mode nowMs = .ok response)
    (hopen : (commit s env response nowMs).2 ≠ .Resolved) (hinterval : rt.checkpointInterval = 1)
    (hraw : rt.serde.encode (.ofSession (commit s env response nowMs).1) = some raw)
    (hok : io.writes.head = true) :
    (processMessage rt env ⟨s, io⟩).1.session = (commit s env response nowMs).1
      ∧ (processMessage rt env ⟨s, io⟩).1.io.writes = io.writes.tail.tail := by
  have hcheck (c : Cell) (hs : c.session = (commit s env response nowMs).1)
      (hlen : 1 ≤ (c.io.cache.map (·.length)).getD 0) :
      (maybeInsertCheckpoint rt env.sessionId c).writes = c.io.writes.tail := by
    rw [maybeInsertCheckpoint, hinterval, if_neg (by decide)]
    dsimp only
    rw [if_neg (by omega), forceInsertCheckpoint, hs, hraw]
    dsimp only [Io.append]
    split_ifs <;> rfl
  have hsynth : synthesizeDueAccept rt env.sessionId ⟨s, io.nowMs.2⟩ nowMs
      = (⟨s, io.nowMs.2⟩, .ok false) := by
    simp only [synthesizeDueAccept, hmode, hsyn]
  have hok' : io.nowMs.2.writes.head = true := hok
  have hnow : io.nowMs = (nowMs, io.nowMs.2) := Prod.ext hclock rfl
  rw [processMessage]
  dsimp only
  rw [hnow]
  simp only [hpre, hmode, hadm, hsynth, acceptMessage, hmsg, Io.append, hok', hopen, ↓reduceIte,
    true_and]
  refine hcheck _ rfl ?_
  rw [Option.map_some, Option.getD_some, List.length_append]
  exact Nat.le_add_left 1 _

/-- The sample runtime with a checkpoint after every entry. -/
def checkpointingRuntime : Runtime := { sampleRuntime with checkpointInterval := 1 }

/-- The sample session id, started on a storage whose fourth write will fail. -/
def failingHost : Host :=
  sampleHostStart.apply checkpointingRuntime sampleId
    (.initial (fun _ => 10) (fun _ => 0) fun n => n != 3)

/-- **A failed checkpoint does not stop a message**: the append of the checkpoint fails, nothing was
synthesized, and the session is no longer the one before the call. -/
theorem checkpoint_failure_keeps_message :
    ∃ s, failingHost.world.session = some s ∧ failingHost.world.io.Clocked {10}
      ∧ nextSynthetic s (Handoff.mode Handoff.deps) 10 = .ok none
      ∧ failingHost.world.io.writes.get 1 = false
      ∧ (processMessage checkpointingRuntime Handoff.sampleOffer
          ⟨s, failingHost.world.io⟩).1.io.writes = failingHost.world.io.writes.tail.tail
      ∧ (processMessage checkpointingRuntime Handoff.sampleOffer
          ⟨s, failingHost.world.io⟩).1.session ≠ s := by
  have hsession : failingHost.world.session
      = some (Handoff.sampleSession 10) := rfl
  have hclock : failingHost.world.io.clock = fun _ => 10 := rfl
  have hwrites : failingHost.world.io.writes = fun n => n + 2 != 3 := rfl
  generalize failingHost.world.io = io at *
  have hst : Handoff.decodeState Handoff.deps (Handoff.sampleSession 10)
      = some .default := Handoff.decodeState_of_encoded rfl
  obtain ⟨hadm, hsyn, hmsg⟩ := Handoff.sampleOffer_passes 10 hst rfl rfl rfl
  have hraw : ∃ raw, checkpointingRuntime.serde.encode (.ofSession
      (Handoff.offered (Handoff.sampleSession 10) 10)) = some raw := by
    have hfits : PersistedCodec.fits (.ofSession
        (Handoff.offered (Handoff.sampleSession 10) 10)) = true := by
      rw [Handoff.offered, Handoff.persist]
      generalize Handoff.deps.codec.encode _ = bytes
      rfl
    simp only [checkpointingRuntime, sampleRuntime, jsonSession, hfits, ↓reduceIte,
      Option.some.injEq, exists_eq']
  obtain ⟨raw, hraw⟩ := hraw
  have hmode : checkpointingRuntime.registries.modes.instantiate
      (Handoff.sampleSession 10).mode = .ok (Handoff.mode Handoff.deps) := rfl
  have hhead : io.clock.head = 10 := by
    rw [hclock]
    rfl
  have hfirst : io.writes.head = true := by
    rw [hwrites]
    rfl
  obtain ⟨hleft, hused⟩ := processMessage_checkpointed hmode hhead (by decide) hadm hsyn hmsg
    (by decide) rfl hraw hfirst
  refine ⟨_, hsession, fun n => by rw [hclock]; rfl, hsyn, by rw [hwrites]; rfl, hused, ?_⟩
  rw [hleft]
  intro heq
  have hseen := congrArg Session.seenMessageIds heq
  have hmem : "m1" ∈ (Handoff.sampleSession 10).seenMessageIds := by
    rw [← hseen]
    exact Std.ExtTreeSet.mem_insert_self
  exact absurd hmem (by decide)

end MacpRuntime
