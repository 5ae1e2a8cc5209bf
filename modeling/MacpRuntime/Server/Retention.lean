import MacpRuntime.Server.Wire
import MacpRuntime.Server.Writes

/-!
The life of a session id beyond the session: eviction from memory, garbage collection on disk, and
restarts (`evict_stale_sessions`, `gc_disk_sessions` in `src/runtime.rs`, `src/recovery.rs`).

* `Held`: a log with a `SessionStart` has its session in the registry, which is what refuses a
  second one;
* `HostOp.Retains`: a session is evicted only after its log was compacted, and a restart recovers
  it;
* `at_most_one_start`: **in a run that retains, the log never holds two starts**;
* `evicted_id_starts_twice`: a start, a cancellation, an eviction and the same start again.
-/

namespace MacpRuntime

/-! ### Retention -/

/-- The clock before which a session must have started to be stale. -/
def retentionCutoff (nowMs : Int64) (retentionSecs : UInt64) : Int64 :=
  nowMs - retentionSecs.toInt64 * 1000

/-- A terminal session that started before the cutoff. -/
def Session.stale (s : Session) (cutoff : Int64) : Bool :=
  s.state.isTerminal && decide (s.startedAtUnixMs < cutoff)

/-- One session id: its slot in the registry, its log and its stored snapshot. -/
structure Host where
  world : World
  snapshot : Option Session

/-- What can happen to a session id.  The flags are what storage does: whether the snapshot after
a call was saved, whether the id is listed, its snapshot or log can be read, and whether a
deletion succeeds. -/
inductive HostOp where
  | server (op : ServerOp) (saved : Bool)
  | evictStaleSessions (retentionSecs : UInt64)
  | gcDiskSessions (retentionSecs : UInt64) (listed readable deleted : Bool)
  | restart (listed readable saved : Bool)

/-- Drop a stale session and the copy of its log from memory. -/
def evictStaleSession (retentionSecs : UInt64) (h : Host) : Host :=
  let (now, io) := h.world.io.nowMs
  if h.world.session.any (·.stale (retentionCutoff now retentionSecs)) then
    { h with world := ⟨none, { io with cache := none }⟩ }
  else { h with world := ⟨h.world.session, io⟩ }

/-- Delete the stored data of a stale session: one in memory, or an evicted one by its
snapshot. -/
def gcDiskSession (retentionSecs : UInt64) (listed readable deleted : Bool) (h : Host) : Host :=
  let (now, io) := h.world.io.nowMs
  let cutoff := retentionCutoff now retentionSecs
  let eligible :=
    match h.world.session with
    | some s => s.stale cutoff
    | none => readable && h.snapshot.any (·.stale cutoff)
  if listed && eligible && deleted then ⟨⟨none, { io with log := [], cache := none }⟩, none⟩
  else { h with world := ⟨h.world.session, io⟩ }

variable (rt : Runtime) (sessionId : String)

/-- A new process, after `recover_sessions`. -/
def recoverSession (listed readable saved : Bool) (h : Host) : Host :=
  let io := { h.world.io with cache := none }
  if !listed || !readable || io.log.isEmpty then { h with world := ⟨none, io⟩ }
  else
    match rt.replayLog sessionId io.log with
    | .error _ => { h with world := ⟨none, io⟩ }
    | .ok session =>
      ⟨⟨some session, { io with cache := some io.log }⟩,
        if saved then some session else h.snapshot⟩

/-- The host after an operation. -/
def HostOp.apply (h : Host) : HostOp → Host
  | .server op saved =>
    let world := op.apply rt sessionId h.world
    ⟨world, if saved then world.session <|> h.snapshot else h.snapshot⟩
  | .evictStaleSessions retentionSecs => evictStaleSession retentionSecs h
  | .gcDiskSessions retentionSecs listed readable deleted =>
    gcDiskSession retentionSecs listed readable deleted h
  | .restart listed readable saved => recoverSession rt sessionId listed readable saved h

/-- The host after a run. -/
def hostRun (h : Host) (ops : List HostOp) : Host :=
  ops.foldl (HostOp.apply rt sessionId) h

/-- Before the first call. -/
def Host.initial (clock wallClock : Stream' Int64) (writes : Stream' Bool) : Host :=
  ⟨.initial clock wallClock writes, none⟩

/-! ### Starts in a log -/

/-- The `SessionStart` entries of a log. -/
def sessionStarts (log : List LogEntry) : ℕ := log.countP (·.messageType == "SessionStart")

lemma sessionStarts_concat (log : List LogEntry) (entry : LogEntry) :
    sessionStarts (log ++ [entry])
      = sessionStarts log + if entry.messageType == "SessionStart" then 1 else 0 := by
  rw [sessionStarts, List.countP_append, List.countP_singleton, ← sessionStarts]

lemma sessionStarts_concat_of_ne {log : List LogEntry} {entry : LogEntry}
    (h : entry.messageType ≠ "SessionStart") :
    sessionStarts (log ++ [entry]) = sessionStarts log := by
  rw [sessionStarts_concat, if_neg (by simpa using h), Nat.add_zero]

section Starts

variable {rt : Runtime} {sessionId : String} {clocks : Set Int64}

/-- No operation on a session adds a start. -/
lemma Write.sessionStarts_le (hmodes : rt.registries.modes.Shipped rt.prost)
    {p p' : Session × List LogEntry} (h : Write rt sessionId clocks p p') :
    sessionStarts p'.2 ≤ sessionStarts p.2 := by
  cases h with
  | expired _ _ => exact (sessionStarts_concat_of_ne (by simp [makeInternalEntry])).le
  | cleaned _ _ => exact (sessionStarts_concat_of_ne (by simp [makeInternalEntry])).le
  | synthesized nowMs hmode hsyn =>
    exact (sessionStarts_concat_of_ne
      ((hmodes.logFaithful hmode).emission _ _ _ hsyn).messageType_ne).le
  | accepted _ _ _ _ _ hstart _ _ => exact (sessionStarts_concat_of_ne hstart).le
  | cancelled _ _ _ => exact (sessionStarts_concat_of_ne (by simp [makeInternalEntry])).le
  | suspended _ _ _ => exact (sessionStarts_concat_of_ne (by simp [makeInternalEntry])).le
  | resumed _ _ _ => exact (sessionStarts_concat_of_ne (by simp [makeInternalEntry])).le
  | checkpointed _ _ _ => exact (sessionStarts_concat_of_ne (by simp [checkpointEntry])).le
  | compacted _ _ _ => exact Nat.zero_le _

lemma Writes.sessionStarts_le (hmodes : rt.registries.modes.Shipped rt.prost)
    {p p' : Session × List LogEntry} (h : Writes rt sessionId clocks p p') :
    sessionStarts p'.2 ≤ sessionStarts p.2 := by
  induction h with
  | refl => exact le_rfl
  | tail _ hwrite ih => exact (hwrite.sessionStarts_le hmodes).trans ih

/-! ### The slot holds what the log started -/

/-- A log holds at most one start, and then the registry holds its session. -/
structure Held (w : World) : Prop where
  starts_le : sessionStarts w.io.log ≤ 1
  held : 0 < sessionStarts w.io.log → w.session.isSome = true

lemma Held.of_empty {w : World} (h : sessionStarts w.io.log = 0) : Held w :=
  ⟨h.le.trans (Nat.zero_le _), fun hpos => absurd h hpos.ne'⟩

/-- Reading the clock changes neither the slot nor the log. -/
lemma Held.nowMs {w : World} (h : Held w) : Held ⟨w.session, w.io.nowMs.2⟩ :=
  ⟨h.starts_le, h.held⟩

/-- **One call of the server keeps the slot**: a start is appended only where the registry holds
no session, and so to a log without one. -/
lemma ServerOp.apply_held (hmodes : rt.registries.modes.Shipped rt.prost) {w : World}
    (h : Held w) (op : ServerOp) : Held (op.apply rt sessionId w) := by
  have hstep : World.Step rt sessionId Set.univ w (op.apply rt sessionId w) :=
    op.apply_step fun _ => Set.mem_univ _
  generalize op.apply rt sessionId w = w' at hstep ⊢
  cases hstep with
  | idle hlog _ => exact ⟨hlog ▸ h.starts_le, hlog ▸ h.held⟩
  | writes hs hc => exact ⟨(hc.writes.sessionStarts_le hmodes).trans h.starts_le, fun _ => rfl⟩
  | started hnone _ hlog _ =>
    have hzero : sessionStarts w.io.log = 0 := by
      by_contra hne
      have hheld := h.held (Nat.pos_of_ne_zero hne)
      rw [hnone] at hheld
      cases hheld
    refine ⟨?_, fun _ => rfl⟩
    rw [hlog, sessionStarts_concat, hzero]
    split_ifs <;> omega

/-! ### Runs that retain -/

/-- A call that does not lose a session whose start is still in the log: an eviction of the
session finds its log compacted, and a restart recovers it. -/
def HostOp.Retains (rt : Runtime) (sessionId : String) (h : Host) : HostOp → Prop
  | .evictStaleSessions retentionSecs =>
    h.world.session.any (·.stale (retentionCutoff h.world.io.nowMs.1 retentionSecs)) = true →
      sessionStarts h.world.io.log = 0
  | .restart listed readable _ =>
    0 < sessionStarts h.world.io.log →
      listed = true ∧ readable = true ∧ ∃ s, rt.replayLog sessionId h.world.io.log = .ok s
  | _ => True

/-- Every call of a run retains, on the host it finds. -/
def RetainsAll (rt : Runtime) (sessionId : String) : Host → List HostOp → Prop
  | _, [] => True
  | h, op :: ops =>
    op.Retains rt sessionId h ∧ RetainsAll rt sessionId (op.apply rt sessionId h) ops

lemma evictStaleSession_held {h : Host} (hheld : Held h.world) {retentionSecs : UInt64}
    (hretains : (HostOp.evictStaleSessions retentionSecs).Retains rt sessionId h) :
    Held (evictStaleSession retentionSecs h).world := by
  rw [evictStaleSession]
  dsimp only
  split_ifs with hstale
  · exact .of_empty (hretains hstale)
  · exact hheld.nowMs

lemma recoverSession_held {h : Host} (hheld : Held h.world) {listed readable saved : Bool}
    (hretains : (HostOp.restart listed readable saved).Retains rt sessionId h) :
    Held (recoverSession rt sessionId listed readable saved h).world := by
  rw [recoverSession]
  dsimp only
  rcases Nat.eq_zero_or_pos (sessionStarts h.world.io.log) with hzero | hpos
  · split
    · exact .of_empty hzero
    · split
      · exact .of_empty hzero
      · exact .of_empty hzero
  · obtain ⟨rfl, rfl, s, hs⟩ := hretains hpos
    have hne : ¬ (!true || !true || h.world.io.log.isEmpty) = true := by
      intro hskip
      simp only [Bool.not_true, Bool.false_or, List.isEmpty_iff] at hskip
      rw [hskip] at hpos
      cases hpos
    rw [if_neg hne, hs]
    exact ⟨hheld.starts_le, fun _ => rfl⟩

/-- **A call that retains keeps the slot.** -/
lemma HostOp.apply_held (hmodes : rt.registries.modes.Shipped rt.prost) {h : Host}
    (hheld : Held h.world) {op : HostOp} (hretains : op.Retains rt sessionId h) :
    Held (op.apply rt sessionId h).world := by
  cases op with
  | server op saved => exact op.apply_held hmodes hheld
  | evictStaleSessions retentionSecs => exact evictStaleSession_held hheld hretains
  | gcDiskSessions retentionSecs listed readable deleted =>
    rw [HostOp.apply, gcDiskSession]
    dsimp only
    split_ifs
    · exact .of_empty rfl
    · exact hheld.nowMs
  | restart listed readable saved => exact recoverSession_held hheld hretains

lemma hostRun_held (hmodes : rt.registries.modes.Shipped rt.prost) {h : Host}
    (hheld : Held h.world) {ops : List HostOp} (hretains : RetainsAll rt sessionId h ops) :
    Held (hostRun rt sessionId h ops).world := by
  induction ops generalizing h with
  | nil => exact hheld
  | cons op ops ih => exact ih (op.apply_held hmodes hheld hretains.1) hretains.2

/-- **At most one start.**  In every run whose calls retain, the durable log of a session id holds
at most one `SessionStart`. -/
theorem at_most_one_start (hmodes : rt.registries.modes.Shipped rt.prost)
    {clock wallClock : Stream' Int64} {writes : Stream' Bool} {ops : List HostOp}
    (hretains : RetainsAll rt sessionId (.initial clock wallClock writes) ops) :
    sessionStarts (hostRun rt sessionId (.initial clock wallClock writes) ops).world.io.log ≤ 1 :=
  (hostRun_held hmodes (.of_empty rfl) hretains).starts_le

end Starts

/-! ### A session id -/

/-- A clock that ticks at every reading, from 5 on. -/
def tickingClock : Stream' Int64 := fun n => (5 + n : ℕ).toInt64

/-- The host of the sample session's id before its start, with a storage that never fails. -/
def sampleHost : Host := .initial tickingClock (fun _ => 0) fun _ => true

/-- The sample runtime, with the logs of terminal sessions compacted. -/
def compactingRuntime : Runtime := { sampleRuntime with compactTerminalLogs := true }

/-- The start of the sample session, saved. -/
def sampleHostStart : HostOp := .server (.process (Handoff.sampleStart []) none 0) true

/-- The session is started and recovered by a restart, its log is compacted when it is cancelled,
and it is evicted. -/
def evictedOps : List HostOp :=
  [sampleHostStart, .restart true true true, .server (.cancelSession "" "a") true,
    .evictStaleSessions 0]

/-- The id is free again, and its second start is the only one in the log. -/
theorem at_most_one_start_sample :
    (hostRun compactingRuntime sampleId sampleHost evictedOps).world.session.isNone = true
      ∧ 0 < sessionStarts (hostRun compactingRuntime sampleId sampleHost
        (evictedOps ++ [sampleHostStart])).world.io.log
      ∧ sessionStarts (hostRun compactingRuntime sampleId sampleHost
        (evictedOps ++ [sampleHostStart])).world.io.log ≤ 1 := by
  have hmodes : compactingRuntime.registries.modes.Shipped compactingRuntime.prost :=
    sampleRuntime_shipped
  have hretains : RetainsAll compactingRuntime sampleId sampleHost
      (evictedOps ++ [sampleHostStart]) :=
    ⟨trivial, fun _ => ⟨rfl, rfl, _, rfl⟩, trivial, fun _ => rfl, trivial, trivial⟩
  exact ⟨rfl, by decide, at_most_one_start hmodes hretains⟩

/-- **An evicted id starts twice**: the session is cancelled and evicted, and the same start is
accepted again onto the log it left. -/
theorem evicted_id_starts_twice :
    sessionStarts (hostRun sampleRuntime sampleId sampleHost
      [sampleHostStart, .server (.cancelSession "" "a") true, .evictStaleSessions 0,
        sampleHostStart]).world.io.log = 2 := by
  rfl

end MacpRuntime
