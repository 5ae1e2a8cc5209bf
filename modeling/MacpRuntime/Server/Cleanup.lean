import MacpRuntime.Server.Wire

/-!
The background cleanup over a whole registry (`cleanup_expired_sessions`, `src/runtime.rs`), at one
clock reading.  It is `Complete` when no session is past its deadline, those that were are expired
and recorded, and no other has changed; `cleanup_complete_iff`: **that is so exactly if no suspended
session is past its suspension cap**: the pass has its own test, which looks at open sessions only.
-/

namespace MacpRuntime

section Cleanup

variable (rt : Runtime) (now : Int64) (sessionId : String)

/-- The pass over one session, after the clock was read. -/
def cleanupAt (c : Cell) : Cell :=
  if c.session.state ≠ .Open ∨ now ≤ c.session.ttlExpiry then c
  else
    match c.io.append (makeInternalEntry "TtlExpired" [] sessionId c.session.mode now) with
    | (false, io) => ⟨c.session, io⟩
    | (true, io) =>
      let session := { c.session with state := .Expired }
      ⟨session, closeLog rt sessionId ⟨session, io⟩⟩

lemma cleanupExpiredSession_eq (c : Cell) :
    cleanupExpiredSession rt sessionId c
      = cleanupAt rt c.io.nowMs.1 sessionId ⟨c.session, c.io.nowMs.2⟩ := rfl

/-- The pass over a registry.  A session is handled under its own mutex and has a log of its own,
so the order does not matter. -/
def cleanupExpiredSessions (registry : List (String × Cell)) : List (String × Cell) :=
  registry.map fun e => (e.1, cleanupAt rt now e.1 e.2)

/-- The expiry of `c` is durable in `c'`. -/
def Recorded (c c' : Cell) : Prop :=
  makeInternalEntry "TtlExpired" [] sessionId c.session.mode now ∈ c'.io.log
    ∨ rt.compactTerminalLogs = true ∧ ∃ rawPayload atMs discarded,
      rt.serde.encode (.ofSession c'.session) = some rawPayload
        ∧ c'.io.log = [checkpointEntry c'.session sessionId rawPayload atMs discarded]

/-- What the pass is for. -/
structure Complete (registry : List (String × Cell)) : Prop where
  none_due : ∀ e ∈ cleanupExpiredSessions rt now registry, e.2.session.deadlinePassed now = false
  due : ∀ e ∈ registry, e.2.session.deadlinePassed now = true →
    (cleanupAt rt now e.1 e.2).session.state = .Expired
      ∧ Recorded rt now e.1 e.2 (cleanupAt rt now e.1 e.2)
  kept : ∀ e ∈ registry, e.2.session.deadlinePassed now = false →
    (cleanupAt rt now e.1 e.2).session = e.2.session
      ∧ (cleanupAt rt now e.1 e.2).io.log = e.2.io.log

variable {rt now}

lemma append_log {io : Io} (h : io.writes.head = true) (entry : LogEntry) :
    (io.append entry).1 = true ∧ (io.append entry).2.log = io.log ++ [entry] := by
  unfold Io.append
  rw [h]
  exact ⟨rfl, rfl⟩

variable {c : Cell} {entry : LogEntry} {sessionId : String}

/-- A checkpoint is appended to the log, if anything is. -/
lemma forceInsertCheckpoint_log (h : entry ∈ c.io.log) :
    entry ∈ (forceInsertCheckpoint rt sessionId c).log := by
  unfold forceInsertCheckpoint
  split
  · exact h
  · dsimp only [Io.nowMs, Io.append]
    split_ifs
    · exact List.mem_append_left _ h
    · exact h

/-- Closing a log keeps its entries or replaces them by a checkpoint. -/
lemma closeLog_log (h : entry ∈ c.io.log) :
    entry ∈ (closeLog rt sessionId c).log
      ∨ rt.compactTerminalLogs = true ∧ ∃ rawPayload atMs discarded,
        rt.serde.encode (.ofSession c.session) = some rawPayload
          ∧ (closeLog rt sessionId c).log
            = [checkpointEntry c.session sessionId rawPayload atMs discarded] := by
  have hclosing := closeLog_closing rt sessionId c
  generalize closeLog rt sessionId c = io at hclosing ⊢
  cases hclosing with
  | compacted hcompact hraw _ hentry => exact .inr ⟨hcompact, _, _, _, hraw, by rw [hentry]⟩
  | kept _ => exact .inl (forceInsertCheckpoint_log h)
  | failed _ => exact .inl (forceInsertCheckpoint_log h)

/-- An open session past its deadline is expired. -/
lemma cleanupAt_of_due (hopen : c.session.state = .Open) (hdue : ¬ now ≤ c.session.ttlExpiry)
    (hwrite : c.io.writes.head = true) :
    (cleanupAt rt now sessionId c).session = { c.session with state := .Expired }
      ∧ Recorded rt now sessionId c (cleanupAt rt now sessionId c) := by
  obtain ⟨hok, hlog⟩ :=
    append_log hwrite (makeInternalEntry "TtlExpired" [] sessionId c.session.mode now)
  have heq : cleanupAt rt now sessionId c
      = ⟨{ c.session with state := .Expired }, closeLog rt sessionId
        ⟨{ c.session with state := .Expired },
          (c.io.append (makeInternalEntry "TtlExpired" [] sessionId c.session.mode now)).2⟩⟩ := by
    rw [cleanupAt, if_neg (by simp [hopen, hdue])]
    generalize c.io.append (makeInternalEntry "TtlExpired" [] sessionId c.session.mode now) = r
      at hok
    obtain ⟨ok, io⟩ := r
    obtain rfl : ok = true := hok
    rfl
  rw [heq]
  refine ⟨rfl, closeLog_log ?_⟩
  rw [hlog]
  exact List.mem_append_right _ List.mem_cons_self

lemma cleanupAt_of_not_due (h : c.session.state ≠ .Open ∨ now ≤ c.session.ttlExpiry) :
    cleanupAt rt now sessionId c = c := by
  rw [cleanupAt, if_pos h]

/-- **The pass is complete exactly if no suspended session is past its cap.** -/
theorem cleanup_complete_iff {registry : List (String × Cell)}
    (hwrites : ∀ e ∈ registry, ∀ n, e.2.io.writes.get n = true) :
    Complete rt now registry ↔ ∀ e ∈ registry, e.2.session.state = .Suspended →
      e.2.session.suspendCapExceeded now = false := by
  constructor
  · intro h e he hsuspended
    -- the pass leaves a suspended session as it is
    have hdue := h.none_due _ (List.mem_map_of_mem he)
    rw [cleanupAt_of_not_due (.inl (by rw [hsuspended]; decide)), Session.deadlinePassed,
      hsuspended] at hdue
    exact hdue
  · intro h
    have hcases : ∀ e ∈ registry, e.2.session.deadlinePassed now = true ∧
        e.2.session.state = .Open ∧ ¬ now ≤ e.2.session.ttlExpiry
        ∨ e.2.session.deadlinePassed now = false
          ∧ (e.2.session.state ≠ .Open ∨ now ≤ e.2.session.ttlExpiry) := by
      intro e he
      unfold Session.deadlinePassed
      cases hstate : e.2.session.state with
      | Open =>
        by_cases hle : now ≤ e.2.session.ttlExpiry
        · exact .inr ⟨by simpa using hle, .inr hle⟩
        · exact .inl ⟨by simpa using hle, rfl, hle⟩
      | Suspended => exact .inr ⟨h e he hstate, .inl (by decide)⟩
      | _ => exact .inr ⟨rfl, .inl (by decide)⟩
    refine ⟨fun e' he' => ?_, fun e he hdue => ?_, fun e he hdue => ?_⟩
    · obtain ⟨e, he, rfl⟩ := List.mem_map.mp he'
      rcases hcases e he with ⟨-, hopen, hpast⟩ | ⟨hdue, hnot⟩
      · rw [(cleanupAt_of_due hopen hpast (hwrites e he 0)).1]
        rfl
      · rw [cleanupAt_of_not_due hnot]
        exact hdue
    · rcases hcases e he with ⟨-, hopen, hpast⟩ | ⟨hnot, -⟩
      · have hexpired : (cleanupAt rt now e.1 e.2).session = { e.2.session with state := .Expired }
            ∧ Recorded rt now e.1 e.2 (cleanupAt rt now e.1 e.2) :=
          cleanupAt_of_due hopen hpast (hwrites e he 0)
        exact ⟨by rw [hexpired.1], hexpired.2⟩
      · rw [hnot] at hdue
        cases hdue
    · rcases hcases e he with ⟨hpast, -⟩ | ⟨-, hnot⟩
      · rw [hdue] at hpast
        cases hpast
      · rw [cleanupAt_of_not_due hnot]
        exact ⟨rfl, rfl⟩

end Cleanup

/-! ### Two sessions -/

/-- A session that has been suspended since clock 10, and storage that works. -/
def suspendedCell : Cell where
  session := { Handoff.sampleSession 5 with
    state := .Suspended
    suspendedAtMs := some 10 }
  io := ⟨[], none, fun n => (10 + n : ℕ).toInt64, fun _ => 0, fun _ => true⟩

/-- The same session, open. -/
def openCell : Cell := ⟨Handoff.sampleSession 5, suspendedCell.io⟩

/-- A suspended session past its cap is left as it is. -/
theorem cleanup_leaves_suspended :
    (suspendedCell.session.deadlinePassed (11 + maxSuspendMs) = true
      ∧ ∀ n, suspendedCell.io.writes.get n = true)
      ∧ cleanupExpiredSessions sampleRuntime (11 + maxSuspendMs) [("s", suspendedCell)]
        = [("s", suspendedCell)]
      ∧ ¬ Complete sampleRuntime (11 + maxSuspendMs) [("s", suspendedCell)] := by
  have hdue : suspendedCell.session.deadlinePassed (11 + maxSuspendMs) = true := by rfl
  have hpass : cleanupExpiredSessions sampleRuntime (11 + maxSuspendMs) [("s", suspendedCell)]
      = [("s", suspendedCell)] := by
    rw [cleanupExpiredSessions, List.map_singleton,
      cleanupAt_of_not_due (.inl (show SessionState.Suspended ≠ .Open by decide))]
  refine ⟨⟨hdue, fun _ => rfl⟩, hpass, fun hcomplete => ?_⟩
  have hnone := hcomplete.none_due ("s", suspendedCell) (by rw [hpass]; exact List.mem_cons_self)
  rw [hdue] at hnone
  cases hnone

theorem cleanup_complete_iff_sample : Complete sampleRuntime 1006 [("s", openCell)] := by
  refine (cleanup_complete_iff ?_).mpr ?_
  · intro e he n
    rw [List.mem_singleton.mp he]
    rfl
  · intro e he hsuspended
    rw [List.mem_singleton.mp he] at hsuspended
    cases hsuspended

end MacpRuntime
