import MacpRuntime.Kernel.Atomicity
import MacpRuntime.Server.Feed
import MacpRuntime.Server.Writes

/-!
How the runtime's operations reach a session's log and bus: the accesses of a start, a message and a
sweep, in the order in which `src/runtime.rs` makes them, **form a stay under the lock and leave the
log that the operation leaves** (`startActions_critical`, `messageActions_enacts`,
`sweepActions_enacts`).
-/

namespace MacpRuntime

/-! ### The runtime's own stays under the lock -/

section Operations

variable (rt : Runtime) (sessionId : String)

/-- The accesses of an emission: its entry, a checkpoint if one is due, and the publication. -/
def synthesizeActions (c : Cell) (nowMs : Int64) : List BusAction :=
  match rt.registries.modes.instantiate c.session.mode with
  | .error _ => []
  | .ok mode =>
    match nextSynthetic c.session mode nowMs with
    | .ok (some syn) =>
      let entry := makeIncomingEntry syn.envelope syn.envelope.timestampUnixMs
      match c.io.append entry with
      | (false, _) => []
      | (true, io) =>
        [.accept ⟨syn.envelope, entry⟩,
          .keep (maybeInsertCheckpoint rt sessionId
            ⟨(commitSynthetic c.session syn).1, io⟩).cache,
          .publish syn.envelope]
    | _ => []

/-- The accesses of a message after the prechecks and the due envelope. -/
def acceptActions (mode : Mode) (env : Envelope) (nowMs : Int64) (c : Cell) : List BusAction :=
  match dispatch c.session env mode nowMs with
  | .error _ => []
  | .ok response =>
    let entry := makeIncomingEntry env nowMs
    match c.io.append entry with
    | (false, _) => []
    | (true, io) =>
      let (session, resultState) := commit c.session env response nowMs
      let io :=
        if resultState = .Resolved then closeLog rt env.sessionId ⟨session, io⟩
        else maybeInsertCheckpoint rt env.sessionId ⟨session, io⟩
      [.accept ⟨env, entry⟩, .keep io.cache, .publish env]

/-- The accesses of `processMessage`. -/
def messageActions (env : Envelope) (c : Cell) : List BusAction :=
  let (nowMs, io) := c.io.nowMs
  let c := { c with io := io }
  match checkPreconditions c.session env nowMs with
  | .ok .Expired => [.keep (maybeExpireSession env.sessionId c).1.io.cache]
  | .ok .Proceed =>
    match rt.registries.modes.instantiate c.session.mode with
    | .error _ => []
    | .ok mode =>
      match admitEnvelope c.session env mode with
      | .error _ => []
      | .ok _ =>
        synthesizeActions rt env.sessionId c nowMs ++
          match synthesizeDueAccept rt env.sessionId c nowMs with
          | (_, .error _) => []
          | (c, .ok _) => acceptActions rt mode env nowMs c
  | _ => []

/-- The accesses of the sweep. -/
def sweepActions (c : Cell) : List BusAction :=
  let (now, io) := c.io.nowMs
  if c.session.state ≠ .Open then [] else synthesizeActions rt sessionId ⟨c.session, io⟩ now

/-- The accesses of an accepted start. -/
def startActions (env : Envelope) (acceptedAt : Int64) (v : ValidatedStart) (session : Session) :
    List BusAction :=
  [.accept ⟨env, startEntry env acceptedAt v session⟩, .publish env]

/-! ### They are of the right form -/

section Bookkeeping

variable {rt sessionId} {c : Cell} {history : List Accepted}

/-- The log with at most one more entry of the runtime's own. -/
def Kept (log log' : Option (List LogEntry)) : Prop :=
  log' = log ∨ ∃ entry : LogEntry, entry.entryKind ≠ .Incoming
    ∧ entry.compactedIncomingOrdinals = 0 ∧ log' = some (log.getD [] ++ [entry])

variable {log : Option (List LogEntry)}

lemma Views.kept {log' : Option (List LogEntry)} (h : Views log history) (hkept : Kept log log') :
    Views log' history := by
  rcases hkept with rfl | ⟨entry, hkind, hzero, rfl⟩
  · exact h
  · exact h.append_own hkind hzero

lemma Kept.logBase {log' : Option (List LogEntry)} (h : Kept log log') :
    logBase log' = logBase log := by
  rcases h with rfl | ⟨entry, _, hzero, rfl⟩
  · rfl
  · change compactionBase (log.getD [] ++ [entry]) = MacpRuntime.logBase log
    rw [compactionBase_append, hzero, ite_self, Nat.max_zero]
    cases log <;> rfl

/-- The base that an appended accepted entry leaves. -/
lemma logBase_accept {entry : LogEntry} (hkind : entry.entryKind = .Incoming) :
    logBase (some (log.getD [] ++ [entry])) = logBase log := by
  change compactionBase (log.getD [] ++ [entry]) = logBase log
  rw [compactionBase_append, if_neg (by rw [hkind]; decide), Nat.max_zero]
  cases log <;> rfl

lemma Kept.append {io : Io} (entry : LogEntry) (hkind : entry.entryKind ≠ .Incoming)
    (hzero : entry.compactedIncomingOrdinals = 0) : Kept io.cache (io.append entry).2.cache := by
  rcases happ : io.append entry with ⟨_ | _, io'⟩
  · exact .inl (by rw [(Io.append_eq_false happ).2])
  · exact .inr ⟨entry, hkind, hzero, congrArg Io.cache (Io.append_eq_true happ).2⟩

lemma forceInsertCheckpoint_kept :
    Kept c.io.cache (forceInsertCheckpoint rt sessionId c).cache := by
  rw [forceInsertCheckpoint]
  split
  · exact .inl rfl
  · rename_i rawPayload _
    exact Kept.append (checkpointEntry c.session sessionId rawPayload c.io.nowMs.1 0)
      (fun hkind => EntryKind.noConfusion hkind) rfl

lemma maybeInsertCheckpoint_kept :
    Kept c.io.cache (maybeInsertCheckpoint rt sessionId c).cache := by
  rw [maybeInsertCheckpoint]
  split
  · exact .inl rfl
  · dsimp only
    split
    · exact .inl rfl
    · exact forceInsertCheckpoint_kept

/-- A compaction discards the whole history. -/
lemma Views.discardedOrdinals (h : Views log history) : discardedOrdinals log = history.length := by
  cases h with
  | absent => rfl
  | @entries entries _ hle hinc =>
    have hcount := congrArg List.length hinc
    rw [List.length_map, List.length_drop] at hcount
    change compactionBase entries
      + (entries.filter (·.entryKind == .Incoming)).length = history.length
    omega

/-- A compaction is skipped, or leaves one checkpoint that counts the whole history. -/
lemma Views.compact (h : Views c.io.cache history) (rt : Runtime) (sessionId : String) :
    (maybeCompactLog rt sessionId c).1 = false
        ∧ (maybeCompactLog rt sessionId c).2.cache = c.io.cache
      ∨ (maybeCompactLog rt sessionId c).1 = true
        ∧ Views (maybeCompactLog rt sessionId c).2.cache history
        ∧ logBase (maybeCompactLog rt sessionId c).2.cache = history.length := by
  rw [maybeCompactLog]
  split_ifs
  · exact .inl ⟨rfl, rfl⟩
  · rw [compactSessionLog]
    split
    · exact .inl ⟨rfl, rfl⟩
    · rw [Io.replace, h.discardedOrdinals]
      dsimp only
      split_ifs
      · refine .inr ⟨rfl, .entries ?_ ?_, ?_⟩
        all_goals simp [logBase, compactionBase, checkpointEntry]
      · exact .inl ⟨rfl, rfl⟩

lemma Views.closeLog (h : Views c.io.cache history) :
    Views (closeLog rt sessionId c).cache history := by
  have hcases := h.compact rt sessionId
  rw [MacpRuntime.closeLog]
  generalize maybeCompactLog rt sessionId c = r at hcases ⊢
  rcases r with ⟨_ | _, io⟩
  · obtain ⟨-, hcache⟩ | ⟨⟨⟩, -⟩ := hcases
    have hio : Views io.cache history := hcache ▸ h
    exact Views.kept hio forceInsertCheckpoint_kept
  · obtain ⟨⟨⟩, -⟩ | ⟨-, hviews, -⟩ := hcases
    exact hviews

/-- The expiry writes one entry of the runtime's own, and the ids that were seen stay. -/
lemma maybeExpireSession_kept (sessionId : String) (c : Cell) :
    Kept c.io.cache (maybeExpireSession sessionId c).1.io.cache
      ∧ (maybeExpireSession sessionId c).1.session.seenMessageIds = c.session.seenMessageIds
      ∧ ((maybeExpireSession sessionId c).1.session.state.isTerminal = false →
        c.session.state.isTerminal = false) := by
  rw [maybeExpireSession]
  rcases hnow : c.io.nowMs with ⟨now, io⟩
  have hcache : io.cache = c.io.cache := by
    rw [Io.nowMs] at hnow
    cases hnow
    rfl
  dsimp only
  split_ifs
  · have hafter : Kept io.cache (io.append
        (makeInternalEntry "TtlExpired" [] sessionId c.session.mode now)).2.cache :=
      Kept.append _ (fun hkind => EntryKind.noConfusion hkind) rfl
    rw [hcache] at hafter
    generalize io.append _ = r at hafter ⊢
    obtain ⟨_ | _, io'⟩ := r
    · exact ⟨hafter, rfl, id⟩
    · dsimp only
      rw [Session.expire]
      split_ifs with hterminal
      · exact ⟨hafter, rfl, id⟩
      · exact ⟨hafter, rfl, fun _ => by simpa using hterminal⟩
  · exact ⟨.inl hcache, rfl, id⟩

/-! ### Stable ordinals -/

/-- A change of a session's in-memory log: an accepted entry, one of the runtime's own, which
discards nothing, or a compaction. -/
inductive LogChange where
  | incoming (entry : LogEntry) (hkind : entry.entryKind = .Incoming)
  | own (entry : LogEntry) (hkind : entry.entryKind ≠ .Incoming)
      (hzero : entry.compactedIncomingOrdinals = 0)
  | compact (rt : Runtime) (sessionId : String) (session : Session)

/-- The log after a change. -/
def LogChange.apply (io : Io) : LogChange → Io
  | .incoming entry _ | .own entry _ _ => { io with cache := some (io.cache.getD [] ++ [entry]) }
  | .compact rt sessionId session => (maybeCompactLog rt sessionId ⟨session, io⟩).2

/-- The accepted entries ever appended, and how many of them are compacted. -/
structure Ordinals where
  accepted : List LogEntry
  compacted : ℕ

/-- What a change adds: a compaction that is not skipped reaches everything accepted so far. -/
def LogChange.record (io : Io) (o : Ordinals) : LogChange → Ordinals
  | .incoming entry _ => { o with accepted := o.accepted ++ [entry] }
  | .own _ _ _ => o
  | .compact rt sessionId session =>
    if (maybeCompactLog rt sessionId ⟨session, io⟩).1 then { o with compacted := o.accepted.length }
    else o

/-- The log after some changes, with the record of them. -/
def logRun (p : Io × Ordinals) (changes : List LogChange) : Io × Ordinals :=
  changes.foldl (fun p change => (change.apply p.1, change.record p.1 p.2)) p

/-- An accepted entry, with the envelope it records. -/
def Accepted.ofEntry (entry : LogEntry) : Accepted := ⟨envelopeFromLogEntry entry, entry⟩

/-- The log views what is recorded. -/
structure Ordinals.Counts (o : Ordinals) (log : Option (List LogEntry)) : Prop where
  views : Views log (o.accepted.map .ofEntry)
  base : logBase log = o.compacted

/-- **Every change of the log keeps the ordinals.** -/
lemma LogChange.counts {io : Io} {o : Ordinals} (h : o.Counts io.cache) (change : LogChange) :
    (change.record io o).Counts (change.apply io).cache := by
  obtain ⟨hviews, hbase⟩ := h
  cases change with
  | incoming entry hkind =>
    refine ⟨?_, (logBase_accept hkind).trans hbase⟩
    rw [LogChange.record, List.map_append]
    exact hviews.append_accepted (a := .ofEntry entry) hkind
  | own entry hkind hzero =>
    exact ⟨hviews.append_own hkind hzero,
      (Kept.logBase (.inr ⟨entry, hkind, hzero, rfl⟩)).trans hbase⟩
  | compact rt sessionId session =>
    rw [LogChange.record, LogChange.apply]
    obtain ⟨hskip, hcache⟩ | ⟨hdone, hviews', hbase'⟩ :=
      Views.compact (c := ⟨session, io⟩) hviews rt sessionId
    · rw [hskip, hcache, if_neg Bool.false_ne_true]
      exact ⟨hviews, hbase⟩
    · rw [hdone, if_pos rfl]
      exact ⟨hviews', hbase'.trans (List.length_map _)⟩

lemma length_accepted_le (p : Io × Ordinals) (changes : List LogChange) :
    (logRun p changes).2.accepted.length ≤ p.2.accepted.length + changes.length := by
  induction changes generalizing p with
  | nil => exact le_rfl
  | cons change changes ih =>
    have hone : (change.record p.1 p.2).accepted.length ≤ p.2.accepted.length + 1 := by
      cases change <;> rw [LogChange.record] <;> [simp; simp; (split_ifs <;> simp)]
    have hrest := ih (change.apply p.1, change.record p.1 p.2)
    rw [logRun, List.foldl_cons, List.length_cons]
    exact hrest.trans (by dsimp only; omega)

/-- **Accepted ordinals are stable.**  After any sequence of changes of an in-memory log, a position
below the compacted ordinals is refused with their number, and from any other the reader is given
what was accepted after it, each entry with its place among all that were ever accepted, and their
number.  In fewer than 2^64 changes no ordinal leaves the range of a `u64`. -/
theorem ordinals_stable (io : Io) (changes : List LogChange) (after : ℕ) :
    let p := logRun ({ io with cache := none }, ⟨[], 0⟩) changes
    getIncomingAfterWithHighWater p.1.cache after
        = (if after < p.2.compacted then .error p.2.compacted
          else .ok (Resume.numberFrom (after + 1) (p.2.accepted.drop after), p.2.accepted.length))
      ∧ (changes.length < 2 ^ 64 →
        p.2.compacted ≤ p.2.accepted.length ∧ p.2.accepted.length < 2 ^ 64) := by
  have hrun (changes : List LogChange) : ∀ p : Io × Ordinals, p.2.Counts p.1.cache →
      (logRun p changes).2.Counts (logRun p changes).1.cache := by
    induction changes with
    | nil => exact fun _ h => h
    | cons change changes ih => exact fun p h => ih _ (change.counts h)
  obtain ⟨hviews, hbase⟩ :=
    hrun changes ({ io with cache := none }, ⟨[], 0⟩) ⟨.absent, rfl⟩
  have hentries (accepted : List LogEntry) :
      ((accepted.map Accepted.ofEntry).drop after).map (·.entry) = accepted.drop after := by
    rw [List.map_drop, List.map_map]
    exact congrArg _ (List.map_id' accepted)
  have hcompacted := hviews.logBase_le
  have hlength := length_accepted_le ({ io with cache := none }, ⟨[], 0⟩) changes
  rw [hbase, List.length_map] at hcompacted
  rw [List.length_nil, Nat.zero_add] at hlength
  dsimp only
  rw [hviews.incomingAfter, hbase, hentries, List.length_map]
  exact ⟨rfl, fun hshort => ⟨hcompacted, hlength.trans_lt hshort⟩⟩

end Bookkeeping

end Operations

/-! ### What the operations enact -/

/-- No client may use an id that the mode emits itself. -/
def Mode.OwnIds (mode : Mode) : Prop :=
  ∀ s syn nowMs env, nextSynthetic s mode nowMs = .ok (some syn) →
    admitEnvelope s env mode = .ok () → env.messageId ≠ syn.envelope.messageId

theorem Passthrough.mode_ownIds (prost : Prost) (allowedMessageTypes : List String) :
    (Passthrough.mode prost allowedMessageTypes).OwnIds := by
  intro s syn nowMs env h
  obtain ⟨_, hdue, _⟩ := nextSynthetic_eq_some h
  cases hdue

/-- The reserved namespace is closed to clients from the revision at which it is used. -/
theorem Handoff.mode_ownIds (d : Handoff.Deps) : (Handoff.mode d).OwnIds := by
  intro s syn nowMs env h hadm heq
  obtain ⟨_, hdue, _⟩ := nextSynthetic_eq_some h
  have hdue' : Handoff.dueSyntheticEnvelope d s nowMs = some syn.envelope := hdue
  obtain ⟨o, deadline, henv⟩ := Handoff.exists_implicitAccept hdue'
  have hclient : Handoff.validateClientEnvelope d s env = .ok () := (admitEnvelope_eq_ok hadm).2
  have hrev : ¬ s.semanticsRev < 2 := by
    intro hold
    rw [Handoff.dueSyntheticEnvelope] at hdue'
    dsimp only at hdue'
    rw [if_pos hold] at hdue'
    cases hdue'
  have hreserved : startsWith env.messageId Handoff.implicitAcceptMessageIdPrefix = true := by
    rw [heq, henv, startsWith, List.isPrefixOf_iff_prefix]
    exact ⟨o.handoffId.toList, String.toList_append.symm⟩
  rw [Handoff.validateClientEnvelope, if_neg hrev, if_pos hreserved] at hclient
  cases hclient

/-- The other modes emit nothing. -/
theorem Builtin.ownIds {mode : Mode} (h : Builtin mode) : mode.OwnIds := by
  cases h with
  | handoff d => exact Handoff.mode_ownIds d
  | _ =>
    intro s syn nowMs env hsyn
    obtain ⟨_, hdue, _⟩ := nextSynthetic_eq_some hsyn
    cases hdue

lemma ModeRegistry.Shipped.ownIds {prost : Prost} {registry : ModeRegistry}
    (h : registry.Shipped prost) {name : String} {mode : Mode}
    (hmode : registry.instantiate name = .ok mode) : mode.OwnIds := by
  obtain hbuiltin | ⟨allowed, rfl⟩ := h name mode hmode
  · exact hbuiltin.ownIds
  · exact Passthrough.mode_ownIds prost allowed

/-- The envelope an access accepts. -/
def BusAction.accepted : BusAction → Option Accepted
  | .accept a => some a
  | _ => none

/-- The history that a list of accesses leaves. -/
def historyAfter (history : List Accepted) (actions : List BusAction) : List Accepted :=
  history ++ actions.filterMap BusAction.accepted

/-- The log that an access leaves. -/
def BusAction.onLog (log : Option (List LogEntry)) : BusAction → Option (List LogEntry)
  | .accept a => some (log.getD [] ++ [a.entry])
  | .keep log' => log'
  | .publish _ => log

lemma Feed.perform_log (f : Feed) (action : BusAction) :
    (f.perform action).log = action.onLog f.log := by
  cases action <;> rfl

lemma Critical.append {log : Option (List LogEntry)} {history : List Accepted}
    {pending : Option Envelope} {actions rest : List BusAction}
    (h : Critical log history pending actions)
    (hrest : Critical (actions.foldl BusAction.onLog log) (historyAfter history actions) none
      rest) :
    Critical log history pending (actions ++ rest) := by
  induction h with
  | done => simpa [historyAfter] using hrest
  | keep hv hle _ ih => exact .keep hv hle (ih hrest)
  | accept ha hfresh hbase _ ih =>
    refine .accept ha hfresh hbase (ih ?_)
    rw [historyAfter, List.append_assoc]
    exact hrest
  | publish _ ih => exact .publish (ih hrest)

/-- A cell whose log views the history, all of whose ids the session has seen, and is compacted
only once the session is terminal. -/
structure Cell.Feeds (c : Cell) (history : List Accepted) : Prop where
  views : Views c.io.cache history
  seen : ∀ a ∈ history, a.env.messageId ∈ c.session.seenMessageIds
  uncompacted : c.session.state.isTerminal = false → logBase c.io.cache = 0

/-- An operation and its accesses: they form a stay under the lock, they leave the log that the
operation leaves, and the history they leave is again the cell's. -/
structure Enacts (history : List Accepted) (c c' : Cell) (actions : List BusAction) : Prop where
  critical : Critical c.io.cache history none actions
  feeds : c'.Feeds (historyAfter history actions)
  log : actions.foldl BusAction.onLog c.io.cache = c'.io.cache

section Enactment

variable {rt : Runtime} {sessionId : String} {c : Cell} {history : List Accepted}

/-- Nothing is done to the log. -/
lemma Enacts.none {io : Io} (h : c.Feeds history) (hcache : io.cache = c.io.cache) :
    Enacts history c ⟨c.session, io⟩ [] := by
  have hsame : historyAfter history [] = history := List.append_nil history
  refine ⟨.done, ?_, hcache.symm⟩
  rw [hsame]
  exact ⟨hcache.symm ▸ h.views, h.seen, fun hopen => hcache.symm ▸ h.uncompacted hopen⟩

variable {c' : Cell} {entry : LogEntry} {env : Envelope}

lemma Enacts.trans {c'' : Cell} {actions rest : List BusAction} (h : Enacts history c c' actions)
    (h' : Enacts (historyAfter history actions) c' c'' rest) :
    Enacts history c c'' (actions ++ rest) := by
  refine ⟨h.critical.append (h.log ▸ h'.critical), ?_, ?_⟩
  · rw [historyAfter, List.filterMap_append, ← List.append_assoc]
    exact h'.feeds
  · rw [List.foldl_append, h.log]
    exact h'.log

/-- Only the log of the cell matters. -/
lemma Enacts.of_cache {c₀ : Cell} {actions : List BusAction} (h : Enacts history c₀ c' actions)
    (hcache : c₀.io.cache = c.io.cache) : Enacts history c c' actions :=
  ⟨hcache ▸ h.critical, h.feeds, hcache ▸ h.log⟩

section

variable (h : c.Feeds history)

include h

/-- One update of the log that the history does not notice. -/
lemma Enacts.keep (hviews : Views c'.io.cache history)
    (hbase : logBase c'.io.cache = logBase c.io.cache)
    (hseen : c'.session.seenMessageIds = c.session.seenMessageIds)
    (hstate : c'.session.state.isTerminal = false → c.session.state.isTerminal = false) :
    Enacts history c c' [.keep c'.io.cache] := by
  have hsame : historyAfter history [.keep c'.io.cache] = history := List.append_nil history
  refine ⟨.keep hviews hbase.ge .done, ?_, rfl⟩
  rw [hsame]
  exact ⟨hviews, hseen.symm ▸ h.seen, fun hopen => hbase.trans (h.uncompacted (hstate hopen))⟩

/-- An accepted envelope: its entry, one update of the log that the history does not notice, and
its publication. -/
lemma Enacts.accept {io : Io} (hopen : c.session.state.isTerminal = false)
    (ha : Accepted.Recorded ⟨env, entry⟩) (hnew : env.messageId ∉ c.session.seenMessageIds)
    (happ : c.io.append entry = (true, io))
    (hkeep : ∀ {history' : List Accepted}, Views io.cache history' → Views c'.io.cache history')
    (hbase : c'.session.state.isTerminal = false → logBase c'.io.cache = logBase io.cache)
    (hseen : c'.session.seenMessageIds = c.session.seenMessageIds.insert env.messageId) :
    Enacts history c c' [.accept ⟨env, entry⟩, .keep c'.io.cache, .publish env] := by
  have hio : io.cache = some (c.io.cache.getD [] ++ [entry]) := by
    rw [(Io.append_eq_true happ).2]
  have hviews : Views io.cache (history ++ [⟨env, entry⟩]) := by
    rw [hio]
    exact h.views.append_accepted ha.kind
  have hzero : logBase io.cache = 0 := by
    rw [hio, logBase_accept ha.kind, h.uncompacted hopen]
  refine ⟨?_, ⟨hkeep hviews, fun a hmem => ?_, fun hstill => ?_⟩, rfl⟩
  · refine .accept ha (fun b hb heq => hnew ?_) (h.uncompacted hopen)
      (.keep (hkeep hviews) ?_ (.publish .done))
    · rw [← heq]
      exact h.seen b hb
    · rw [← hio, hzero]
      exact Nat.zero_le _
  · rw [hseen, Std.ExtTreeSet.mem_insert]
    rcases List.mem_append.mp hmem with hold | hlast
    · exact .inr (h.seen a hold)
    · rw [List.mem_singleton.mp hlast]
      exact .inl Std.ReflOrd.compare_self
  · rw [hbase hstill, hzero]

/-- **An emission is enacted.** -/
theorem synthesizeActions_enacts
    (hmodes : rt.registries.modes.Shipped rt.prost) (nowMs : Int64) :
    Enacts history c (synthesizeDueAccept rt sessionId c nowMs).1
      (synthesizeActions rt sessionId c nowMs) := by
  rw [synthesizeDueAccept, synthesizeActions]
  rcases hmode : rt.registries.modes.instantiate c.session.mode with e | mode
  · exact .none h rfl
  · dsimp only
    rcases hsyn : nextSynthetic c.session mode nowMs with e | _ | syn
    · exact .none h rfl
    · exact .none h rfl
    · dsimp only
      have hsound := (hmodes.logFaithful hmode).emission _ _ _ hsyn
      obtain ⟨hopen, _, hfree, _⟩ := nextSynthetic_eq_some hsyn
      rcases happ : c.io.append
        (makeIncomingEntry syn.envelope syn.envelope.timestampUnixMs) with ⟨_ | _, io⟩
      · exact .none h (by rw [(Io.append_eq_false happ).2])
      · have hseen := commitSynthetic_seenMessageIds c.session syn
        exact Enacts.accept h (by rw [hopen]; rfl) (Accepted.recorded_message hsound.version _)
          hfree happ (fun hv => hv.kept maybeInsertCheckpoint_kept)
          (fun _ => maybeInsertCheckpoint_kept.logBase) hseen

/-- **The rest of an accepted message is enacted.** -/
theorem acceptActions_enacts (hopen : c.session.state = .Open) {mode : Mode}
    (hversion : env.macpVersion = macpVersion) (hnew : env.messageId ∉ c.session.seenMessageIds)
    (nowMs : Int64) :
    Enacts history c (acceptMessage rt mode env nowMs c).1 (acceptActions rt mode env nowMs c) := by
  rw [acceptMessage, acceptActions]
  rcases dispatch c.session env mode nowMs with e | response
  · exact .none h rfl
  · dsimp only
    rcases happ : c.io.append (makeIncomingEntry env nowMs) with ⟨_ | _, io⟩
    · exact .none h (by rw [(Io.append_eq_false happ).2])
    · have hseen := commit_seenMessageIds c.session env response nowMs
      refine Enacts.accept h (by rw [hopen]; rfl) (Accepted.recorded_message hversion nowMs) hnew
        happ (fun hv => ?_) (fun hstill => ?_) hseen
      · dsimp only
        split_ifs
        · exact Views.closeLog hv
        · exact hv.kept maybeInsertCheckpoint_kept
      · -- the log is compacted only when the message resolves the session
        dsimp only at hstill ⊢
        rw [if_neg]
        · exact maybeInsertCheckpoint_kept.logBase
        · intro hresolved
          have hstate : (commit c.session env response nowMs).1.state = .Resolved := hresolved
          rw [hstate] at hstill
          cases hstill

end

/-- An emission leaves the ids of messages that the mode lets clients use. -/
lemma synthesizeDueAccept_new {mode : Mode} {nowMs : Int64}
    (hmode : rt.registries.modes.instantiate c.session.mode = .ok mode) (hown : mode.OwnIds)
    (hadm : admitEnvelope c.session env mode = .ok ())
    (hnew : env.messageId ∉ c.session.seenMessageIds) :
    env.messageId ∉ (synthesizeDueAccept rt sessionId c nowMs).1.session.seenMessageIds := by
  rw [synthesizeDueAccept, hmode]
  dsimp only
  rcases hsyn : nextSynthetic c.session mode nowMs with e | _ | syn
  · exact hnew
  · exact hnew
  · dsimp only
    generalize c.io.append _ = written
    obtain ⟨_ | _, io⟩ := written
    · exact hnew
    · dsimp only
      rw [commitSynthetic_seenMessageIds, Std.ExtTreeSet.mem_insert]
      rintro (heq | hold)
      · exact hown _ _ _ _ hsyn hadm (Std.LawfulEqOrd.eq_of_compare heq).symm
      · exact hnew hold

/-- **`processMessage` is enacted**: whatever it accepts is published under the lock, in the order
of acceptance, each envelope before the next one is accepted. -/
theorem messageActions_enacts (h : c.Feeds history)
    (hmodes : rt.registries.modes.Shipped rt.prost) (env : Envelope) :
    Enacts history c (processMessage rt env c).1 (messageActions rt env c) := by
  have hread : Cell.Feeds ⟨c.session, c.io.nowMs.2⟩ history := ⟨h.views, h.seen, h.uncompacted⟩
  rw [processMessage, messageActions]
  set io := c.io.nowMs.2
  set nowMs := c.io.nowMs.1
  dsimp only
  rcases hpre : checkPreconditions c.session env nowMs with e | _ | _ | _
  · exact .none h rfl
  · exact .none h rfl
  · dsimp only
    obtain ⟨hkept, hseen, hstate⟩ := maybeExpireSession_kept env.sessionId ⟨c.session, io⟩
    generalize maybeExpireSession env.sessionId ⟨c.session, io⟩ = r at hkept hseen hstate ⊢
    obtain ⟨c', _ | _⟩ := r
    all_goals
      exact (Enacts.keep hread (hread.views.kept hkept) hkept.logBase hseen hstate).of_cache rfl
  · dsimp only
    rcases hmode : rt.registries.modes.instantiate c.session.mode with e | mode
    · exact .none h rfl
    · dsimp only
      rcases hadm : admitEnvelope c.session env mode with e | _
      · exact .none h rfl
      · dsimp only
        obtain ⟨hshape, hnew, _, hopen⟩ := checkPreconditions_eq_proceed hpre
        have hversion := checkEnvelopeShape_version hshape
        have hsyn : Enacts history c (synthesizeDueAccept rt env.sessionId ⟨c.session, io⟩ nowMs).1
            (synthesizeActions rt env.sessionId ⟨c.session, io⟩ nowMs) :=
          (synthesizeActions_enacts hread hmodes nowMs).of_cache rfl
        have hstill : env.messageId ∉ (synthesizeDueAccept rt env.sessionId ⟨c.session, io⟩
            nowMs).1.session.seenMessageIds :=
          synthesizeDueAccept_new hmode (hmodes.ownIds hmode) hadm hnew
        have hopen' : (synthesizeDueAccept rt env.sessionId ⟨c.session, io⟩ nowMs).1.session.state
            = .Open :=
          (synthesizeDueAccept_ready (c := ⟨c.session, io⟩) hmode (hmodes.logFaithful hmode) hopen
            (admitEnvelope_eq_ok hadm).1).1
        generalize synthesizeDueAccept rt env.sessionId ⟨c.session, io⟩ nowMs = r
          at hsyn hstill hopen' ⊢
        obtain ⟨c', _ | _⟩ := r
        · dsimp only
          rw [List.append_nil]
          exact hsyn
        · exact hsyn.trans (acceptActions_enacts hsyn.feeds hopen' hversion hstill nowMs)

/-- **An accepted start is the first of the history.** -/
theorem startActions_critical {acceptedAt : Int64} {opts : StartOptions} {v : ValidatedStart}
    (h : validateSessionStart rt.prost env acceptedAt opts = .ok v) (session : Session) :
    Critical none [] none (startActions env acceptedAt v session) := by
  have hversion := checkEnvelopeShape_version (validateSessionStart_eq_ok h).1
  have hplain := (Accepted.recorded_message hversion acceptedAt).shown
  have ha : Accepted.Recorded ⟨env, startEntry env acceptedAt v session⟩ := ⟨rfl, hplain⟩
  exact .accept ha (fun _ hb => absurd hb List.not_mem_nil) rfl (.publish .done)

/-- **The sweep is enacted.** -/
theorem sweepActions_enacts (h : c.Feeds history)
    (hmodes : rt.registries.modes.Shipped rt.prost) :
    Enacts history c (sweepDueSyntheticAccept rt sessionId c) (sweepActions rt sessionId c) := by
  have hread : Cell.Feeds ⟨c.session, c.io.nowMs.2⟩ history := ⟨h.views, h.seen, h.uncompacted⟩
  rw [sweepDueSyntheticAccept, sweepActions]
  dsimp only
  split_ifs
  · exact .none h rfl
  · exact (synthesizeActions_enacts hread hmodes _).of_cache rfl

end Enactment

end MacpRuntime
