import MacpRuntime.Lib.Resume
import MacpRuntime.Server.Runtime

/-!
What a subscriber can read of a session: the accepted envelopes in the in-memory log
(`macp-storage/src/log_store.rs`) and those published on the session's bus (`src/stream_bus.rs`).

* `Views`: a log whose entries are the last of a history of accepted envelopes;
* `Critical`: a stay under the session's lock in which every accepted envelope is published before
  the next one is accepted, and none is accepted once the log is compacted;
* `Feed.Valid.act`: what every access of the holder of the lock keeps.
-/

namespace MacpRuntime

open Resume

/-! ### Reading the log -/

/-- The accepted ordinals that compactions discarded. -/
def compactionBase (entries : List LogEntry) : ℕ :=
  ((entries.filter (·.entryKind == .Checkpoint)).map (·.compactedIncomingOrdinals)).foldl max 0

variable (log : Option (List LogEntry))

/-- The base of a log that may not have been created yet. -/
def logBase : ℕ := (log.map compactionBase).getD 0

/-- Only a checkpoint moves the base. -/
lemma compactionBase_append (log : List LogEntry) (entry : LogEntry) :
    compactionBase (log ++ [entry]) = max (compactionBase log)
      (if entry.entryKind = .Checkpoint then entry.compactedIncomingOrdinals else 0) := by
  by_cases hc : entry.entryKind = .Checkpoint
  · simp [compactionBase, List.filter_append, hc]
  · simp [compactionBase, List.filter_append, hc]

/-- The accepted entries strictly after a position, each with its ordinal, and the highest
ordinal; below the compaction base the base is reported instead. -/
def getIncomingAfterWithHighWater (afterSequence : ℕ) : Except ℕ (List (ℕ × LogEntry) × ℕ) :=
  match log with
  | none => .ok ([], 0)
  | some entries =>
    let base := compactionBase entries
    if afterSequence < base then .error base
    else
      .ok ((entries.filter (·.entryKind == .Incoming)).foldl
        (fun acc e =>
          let highWater := acc.2 + 1
          if afterSequence < highWater then (acc.1 ++ [(highWater, e)], highWater)
          else (acc.1, highWater))
        ([], base))

/-- An accepted entry as the envelope a subscriber sees. -/
def envelopeFromLogEntry (entry : LogEntry) : Envelope where
  macpVersion := if entry.macpVersion.isEmpty then MacpRuntime.macpVersion else entry.macpVersion
  mode := entry.mode
  messageType := entry.messageType
  messageId := entry.messageId
  sessionId := entry.sessionId
  sender := entry.sender
  timestampUnixMs :=
    if entry.timestampUnixMs ≠ 0 then entry.timestampUnixMs else entry.receivedAtMs
  payload := entry.rawPayload

/-- What a subscriber is to be replayed, with the high-water mark. -/
def subscribeSnapshot (afterSequence : ℕ) : Except ℕ (List (ℕ × Envelope) × ℕ) :=
  match getIncomingAfterWithHighWater log afterSequence with
  | .error base => .error base
  | .ok (entries, highWater) =>
    .ok (entries.map fun p => (p.1, envelopeFromLogEntry p.2), highWater)

/-- The loop numbers the entries consecutively and keeps those after the position. -/
lemma foldl_incoming (after : ℕ) (entries : List LogEntry) (out : List (ℕ × LogEntry)) (n : ℕ) :
    entries.foldl (fun acc e =>
        let highWater := acc.2 + 1
        if after < highWater then (acc.1 ++ [(highWater, e)], highWater)
        else (acc.1, highWater)) (out, n)
      = (out ++ (numberFrom (n + 1) entries).filter (fun p => after < p.1),
          n + entries.length) := by
  induction entries generalizing out n with
  | nil => simp
  | cons e entries ih =>
    have hlen : n + 1 + entries.length = n + (e :: entries).length := by
      rw [List.length_cons]
      omega
    rw [List.foldl_cons]
    dsimp only
    split_ifs with hlt
    · rw [ih, numberFrom_cons, List.filter_cons_of_pos (by simpa using hlt), List.append_assoc,
        List.singleton_append, hlen]
    · rw [ih, numberFrom_cons, List.filter_cons_of_neg (by simpa using hlt), hlen]

/-! ### Accepted envelopes -/

/-- An accepted envelope with its entry. -/
structure Accepted where
  env : Envelope
  entry : LogEntry

/-- The entry records the envelope: what a subscriber sees of it is the envelope, up to a missing
timestamp. -/
structure Accepted.Recorded (a : Accepted) : Prop where
  kind : a.entry.entryKind = .Incoming
  shown : envelopeFromLogEntry a.entry = a.env.stamped a.entry.receivedAtMs

/-- The entry of a message records it. -/
lemma Accepted.recorded_message {env : Envelope} (h : env.macpVersion = macpVersion)
    (atMs : Int64) : Accepted.Recorded ⟨env, makeIncomingEntry env atMs⟩ := by
  have hne : ¬ env.macpVersion.isEmpty = true := by
    rw [h]
    decide
  refine ⟨rfl, ?_⟩
  rw [envelopeFromLogEntry, Envelope.stamped, Envelope.mk.injEq]
  exact ⟨if_neg hne, rfl, rfl, rfl, rfl, rfl, rfl, rfl⟩

/-- A log that holds the last accepted envelopes of a history: all but those a compaction
discarded. -/
inductive Views : Option (List LogEntry) → List Accepted → Prop
  | absent : Views none []
  | entries {log : List LogEntry} {history : List Accepted}
      (base_le : compactionBase log ≤ history.length)
      (incoming : log.filter (·.entryKind == .Incoming)
        = (history.drop (compactionBase log)).map (·.entry)) :
      Views (some log) history

variable {history : List Accepted} {log : Option (List LogEntry)} {f : Feed}

lemma Views.logBase_le (h : Views log history) : logBase log ≤ history.length := by
  cases h with
  | absent => exact le_rfl
  | entries hle _ => exact hle

/-- **What is read of the log**: the accepted entries after the position, with their ordinals, and
the length of the history; below the base, the base. -/
theorem Views.incomingAfter (h : Views log history) (after : ℕ) :
    getIncomingAfterWithHighWater log after = if after < logBase log then .error (logBase log)
      else .ok (numberFrom (after + 1) ((history.drop after).map (·.entry)), history.length) := by
  cases h with
  | absent => simp [getIncomingAfterWithHighWater, logBase]
  | @entries log _ hle hinc =>
    change (if after < compactionBase log then _ else _)
      = if after < compactionBase log then _ else _
    split_ifs with hlt
    · rfl
    · have hdrop : after + 1 - (compactionBase log + 1) + compactionBase log = after := by omega
      rw [foldl_incoming, List.nil_append, filter_numberFrom (by omega), hinc, List.length_map,
        List.length_drop, ← List.map_drop, List.drop_drop, Nat.add_comm (compactionBase log), hdrop,
        Nat.add_sub_cancel' hle]

/-- **What a snapshot reads**: the envelopes of these entries. -/
theorem Views.snapshot (h : Views log history) (hrec : ∀ a ∈ history, a.Recorded) (after : ℕ) :
    subscribeSnapshot log after
        = .ok (numberFrom (after + 1)
            ((history.drop after).map fun a => a.env.stamped a.entry.receivedAtMs),
          history.length)
      ∨ subscribeSnapshot log after = .error (logBase log) ∧ after < logBase log
        ∧ logBase log ≤ history.length := by
  rw [subscribeSnapshot, h.incomingAfter]
  split_ifs with hlt
  · exact .inr ⟨rfl, hlt, h.logBase_le⟩
  · left
    dsimp only
    rw [numberFrom_map, numberFrom_map, List.map_map]
    refine congrArg (fun xs => Except.ok (xs, history.length)) (List.map_congr_left fun p hp => ?_)
    have hmem : p.2 ∈ history := by
      have hall := List.mem_map_of_mem (f := (·.2)) hp
      rw [map_snd_numberFrom] at hall
      exact List.mem_of_mem_drop hall
    exact congrArg (p.1, ·) (hrec p.2 hmem).shown

/-! ### Under the lock -/

/-- One access to the log or the bus, by the holder of the session's lock. -/
inductive BusAction where
  /-- Append an accepted envelope to the log. -/
  | accept (a : Accepted)
  /-- Bring the log up to date with the runtime's own entries. -/
  | keep (log : Option (List LogEntry))
  /-- Publish an envelope on the bus. -/
  | publish (env : Envelope)

/-- A session's log and bus.  `held` is what the holder of the lock still does: the lock is free
when nothing is left. -/
structure Feed where
  history : List Accepted
  log : Option (List LogEntry)
  sent : List Envelope
  held : List BusAction

/-- The effect of an access. -/
def Feed.perform (f : Feed) : BusAction → Feed
  | .accept a =>
    { f with history := f.history ++ [a], log := some (f.log.getD [] ++ [a.entry]) }
  | .keep log => { f with log := log }
  | .publish env => { f with sent := f.sent ++ [env] }

/-- A stay under the lock, from a given log and history on, with the accepted envelope that is not
published yet.  The log keeps viewing the history, no compaction is undone, and an envelope is
accepted only while nothing is compacted and after the one before is published. -/
inductive Critical :
    Option (List LogEntry) → List Accepted → Option Envelope → List BusAction → Prop
  | done {log : Option (List LogEntry)} {history : List Accepted} : Critical log history none []
  | keep {log log' : Option (List LogEntry)} {history : List Accepted}
      {pending : Option Envelope} {rest : List BusAction} (views : Views log' history)
      (base_le : logBase log ≤ logBase log')
      (rest_critical : Critical log' history pending rest) :
      Critical log history pending (.keep log' :: rest)
  | accept {log : Option (List LogEntry)} {history : List Accepted} {a : Accepted}
      {rest : List BusAction} (recorded : a.Recorded)
      (fresh : ∀ b ∈ history, b.env.messageId ≠ a.env.messageId) (uncompacted : logBase log = 0)
      (rest_critical :
        Critical (some (log.getD [] ++ [a.entry])) (history ++ [a]) (some a.env) rest) :
      Critical log history none (.accept a :: rest)
  | publish {log : Option (List LogEntry)} {history : List Accepted} {env : Envelope}
      {rest : List BusAction} (rest_critical : Critical log history none rest) :
      Critical log history (some env) (.publish env :: rest)

/-- A feed that the runtime can leave, in the middle of an operation too. -/
structure Feed.Valid (f : Feed) : Prop where
  views : Views f.log f.history
  recorded : ∀ a ∈ f.history, a.Recorded
  distinct : (f.history.map (·.env.messageId)).Nodup
  holding : ∃ pending : Option Envelope, f.sent ++ pending.toList = f.history.map (·.env)
    ∧ Critical f.log f.history pending f.held

lemma Views.created (h : Views log history) : Views (some (log.getD [])) history := by
  cases h with
  | absent => exact .entries le_rfl rfl
  | entries hle hinc => exact .entries hle hinc

/-- An appended entry of the runtime's own changes nothing a subscriber reads. -/
lemma Views.append_own (h : Views log history) {entry : LogEntry}
    (hkind : entry.entryKind ≠ .Incoming) (hzero : entry.compactedIncomingOrdinals = 0) :
    Views (some (log.getD [] ++ [entry])) history := by
  cases h.created with
  | entries hle hinc =>
    have hbase : compactionBase (log.getD [] ++ [entry]) = compactionBase (log.getD []) := by
      rw [compactionBase_append, hzero, ite_self, Nat.max_zero]
    refine .entries (hbase ▸ hle) ?_
    rw [hbase, List.filter_append, hinc, List.filter_cons_of_neg (by simpa using hkind),
      List.filter_nil, List.append_nil]

/-- An appended accepted entry is the last of the history. -/
lemma Views.append_accepted (h : Views log history) {a : Accepted}
    (ha : a.entry.entryKind = .Incoming) :
    Views (some (log.getD [] ++ [a.entry])) (history ++ [a]) := by
  cases h.created with
  | entries hle hinc =>
    have hbase : compactionBase (log.getD [] ++ [a.entry]) = compactionBase (log.getD []) := by
      rw [compactionBase_append, if_neg (by rw [ha]; decide), Nat.max_zero]
    refine .entries ?_ ?_
    · rw [hbase, List.length_append]
      omega
    · rw [hbase, List.filter_append, hinc, List.drop_append_of_le_length hle, List.map_append,
        List.filter_cons_of_pos (by simp [ha])]
      rfl

/-- **Every access of the holder of the lock keeps the feed valid.** -/
theorem Feed.Valid.act (h : f.Valid) {action : BusAction} {rest : List BusAction}
    (hheld : f.held = action :: rest) : ({ f with held := rest }.perform action).Valid := by
  obtain ⟨hviews, hrec, hdistinct, pending, hsent, hcrit⟩ := h
  rw [hheld] at hcrit
  cases hcrit with
  | keep hv _ hc => exact ⟨hv, hrec, hdistinct, pending, hsent, hc⟩
  | @accept _ _ a _ ha hfresh _ hc =>
    refine ⟨hviews.append_accepted ha.kind, ?_, ?_, some a.env, ?_, hc⟩
    · intro b hb
      rcases List.mem_append.mp hb with hb | hb
      · exact hrec b hb
      · rw [List.mem_singleton.mp hb]
        exact ha
    · rw [Feed.perform, List.map_append, List.nodup_append]
      refine ⟨hdistinct, List.nodup_singleton _, ?_⟩
      rintro id hid id' hid' rfl
      obtain ⟨b, hb, rfl⟩ := List.mem_map.mp hid
      exact hfresh b hb (List.mem_singleton.mp hid')
    · rw [Option.toList_none, List.append_nil] at hsent
      rw [Feed.perform, hsent, List.map_append]
      rfl
  | publish hc =>
    refine ⟨hviews, hrec, hdistinct, none, ?_, hc⟩
    rw [Feed.perform, Option.toList_none, List.append_nil]
    exact hsent

/-- Once the lock is free, everything accepted is published. -/
lemma Feed.Valid.sent_of_free (h : f.Valid) (hfree : f.held = []) :
    f.sent = f.history.map (·.env) := by
  obtain ⟨pending, hsent, hcrit⟩ := h.holding
  rw [hfree] at hcrit
  cases hcrit
  rwa [Option.toList_none, List.append_nil] at hsent

/-- What is published is accepted. -/
lemma Feed.Valid.sent_prefix (h : f.Valid) : f.sent <+: f.history.map (·.env) := by
  obtain ⟨pending, hsent, _⟩ := h.holding
  exact ⟨pending.toList, hsent⟩

end MacpRuntime
