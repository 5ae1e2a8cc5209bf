import MacpRuntime.Server.Feed

/-!
One subscriber's view of a session (`SubscriptionCursor` in `src/server.rs`): a replay read from the
log, then the live bus, behind a filter that drops what the replay already delivered. `remaining` is
what a cursor will still yield of a bus; `remaining_loadSnapshot_iff`: **exactly when that is, after
a snapshot, the history after the position, each envelope once**.
-/

namespace MacpRuntime

open Std
open Resume

/-! ### The bus, as a receiver sees it -/

/-- The number of envelopes a session's channel holds for a slow receiver. -/
def sessionStreamCapacity : ℕ := 256

/-- A receiver that missed envelopes. -/
structure StreamLagged where
  skipped : ℕ
  deriving DecidableEq, Repr

/-! ### The cursor -/

/-- A subscriber's place in a session. -/
structure SubscriptionCursor where
  receiver : Option ℕ
  replay : List (ℕ × Envelope)
  replayDedup : Option (ExtTreeSet String)
  nextLiveOrdinal : Option ℕ

namespace SubscriptionCursor

/-- A cursor on the bus, from a position on. -/
def new (receiver : ℕ) : SubscriptionCursor := ⟨some receiver, [], none, none⟩

variable (c : SubscriptionCursor)

/-- Whether it has a receiver. -/
def isLive : Bool := c.receiver.isSome

/-- Take a receiver. -/
def attach (receiver : ℕ) : SubscriptionCursor :=
  { c with receiver := some receiver }

/-- Read the replay and the high-water mark.  A replay arms the filter anew; without one the
filter stays as it was. -/
def loadSnapshot (log : Option (List LogEntry)) (afterSequence : ℕ) : Except ℕ SubscriptionCursor :=
  match subscribeSnapshot log afterSequence with
  | .error base => .error base
  | .ok (replay, highWater) =>
    .ok { c with
      replayDedup :=
        if replay.isEmpty then c.replayDedup
        else some (ExtTreeSet.ofList (replay.map (·.2.messageId)))
      replay := c.replay ++ replay
      nextLiveOrdinal := some (highWater + 1) }

/-- Take the replay not yet yielded. -/
def takeReplay : List (ℕ × Envelope) × SubscriptionCursor :=
  (c.replay, { c with replay := [] })

/-- Number a live envelope that passed the filter; without a snapshot there is no numbering. -/
def number (env : Envelope) : (ℕ × Envelope) × SubscriptionCursor :=
  match c.nextLiveOrdinal with
  | some next => ((next, env), { c with nextLiveOrdinal := some (next + 1) })
  | none => ((0, env), c)

/-- Whether a buffered envelope was already replayed. -/
def shouldSkipReplayed (replayDedup : Option (ExtTreeSet String)) (env : Envelope) :
    Bool × Option (ExtTreeSet String) :=
  skip replayDedup env.messageId

/-- The receive loop over what is buffered at `position`. -/
def receive : List Envelope → ℕ → SubscriptionCursor → Option (ℕ × Envelope) × SubscriptionCursor
  | [], position, c => (none, { c with receiver := some position })
  | env :: buffered, position, c =>
    match shouldSkipReplayed c.replayDedup env with
    | (true, dedup) => receive buffered (position + 1) { c with replayDedup := dedup }
    | (false, dedup) =>
      let (item, c) := number { c with replayDedup := dedup } env
      (some item, { c with receiver := some (position + 1) })

/-- The next envelope: the replay first, then the bus, of which `sent` is what was published so
far. -/
def tryNext (sent : List Envelope) :
    Except StreamLagged (Option (ℕ × Envelope)) × SubscriptionCursor :=
  match c.replay with
  | item :: replay => (.ok (some item), { c with replay := replay })
  | [] =>
    match c.receiver with
    | none => (.ok none, c)
    | some position =>
      if position + sessionStreamCapacity < sent.length then
        let oldest := sent.length - sessionStreamCapacity
        (.error ⟨oldest - position⟩, { c with receiver := some oldest })
      else
        let (item, c) := receive (sent.drop position) position c
        (.ok item, c)

/-! ### What is still to come -/

/-- Live envelopes as the cursor numbers them. -/
def numbered (envs : List Envelope) : List (ℕ × Envelope) :=
  match c.nextLiveOrdinal with
  | some next => numberFrom next envs
  | none => envs.map (0, ·)

/-- What the cursor will still yield when `bus` is all that is ever published. -/
def remaining (bus : List Envelope) : List (ℕ × Envelope) :=
  c.replay ++
    match c.receiver with
    | none => []
    | some position => c.numbered (live (·.messageId) c.replayDedup (bus.drop position))

lemma number_eq (env : Envelope) :
    c.number env = ((c.nextLiveOrdinal.getD 0, env),
      { c with nextLiveOrdinal := c.nextLiveOrdinal.map (· + 1) }) := by
  obtain ⟨receiver, replay, dedup, _ | next⟩ := c <;> rfl

lemma numbered_cons (env : Envelope) (envs : List Envelope) :
    c.numbered (env :: envs) = (c.nextLiveOrdinal.getD 0, env)
      :: numbered { c with nextLiveOrdinal := c.nextLiveOrdinal.map (· + 1) } envs := by
  obtain ⟨receiver, replay, dedup, _ | next⟩ := c <;> rfl

lemma length_numbered (envs : List Envelope) : (c.numbered envs).length = envs.length := by
  rw [numbered]
  split
  · exact length_numberFrom _ _
  · exact List.length_map _

variable {item : Option (ℕ × Envelope)}

/-- The receive loop takes the head of what is to come. -/
lemma receive_yields {buffered : List Envelope} {position : ℕ} {c : SubscriptionCursor}
    {c' : SubscriptionCursor} (h : receive buffered position c = (item, c'))
    (hreplay : c.replay = []) {bus rest : List Envelope}
    (hbus : bus.drop position = buffered ++ rest) :
    c.numbered (live (·.messageId) c.replayDedup (bus.drop position))
        = item.toList ++ c'.remaining bus
      ∧ (item = none →
        (live (·.messageId) c.replayDedup (bus.drop position)).length ≤ rest.length) := by
  induction buffered generalizing position c with
  | nil =>
    rw [receive] at h
    cases h
    refine ⟨?_, fun _ => ?_⟩
    · rw [remaining, hreplay]
      rfl
    · rw [hbus]
      exact length_live_le _ _
  | cons env buffered ih =>
    have hnext : bus.drop (position + 1) = buffered ++ rest := by
      rw [← List.drop_drop, hbus]
      rfl
    rw [receive, shouldSkipReplayed] at h
    rw [hbus, List.cons_append, live]
    rcases hskip : skip c.replayDedup env.messageId with ⟨_ | _, dedup⟩
    · have hdisarmed := skip_passed hskip
      subst hdisarmed
      rw [hskip] at h
      dsimp only at h ⊢
      rw [number_eq] at h
      cases h
      refine ⟨?_, fun hnone => absurd hnone (Option.some_ne_none _)⟩
      rw [numbered_cons, remaining, hreplay]
      dsimp only
      rw [hnext]
      rfl
    · rw [hskip] at h
      dsimp only at h ⊢
      rw [← hnext]
      exact ih h hreplay hnext

/-- **A receive yields the head of what is to come**, whatever is published later; when it
finds nothing, nothing is to come of what was published so far. -/
theorem tryNext_yields {c c' : SubscriptionCursor} {sent bus : List Envelope}
    (h : c.tryNext sent = (.ok item, c')) (hsent : sent <+: bus) :
    c.remaining bus = item.toList ++ c'.remaining bus
      ∧ (item = none → (c.remaining bus).length + sent.length ≤ bus.length) := by
  obtain ⟨later, rfl⟩ := hsent
  rw [tryNext] at h
  rcases hreplay : c.replay with _ | ⟨first, replay⟩
  · rw [hreplay] at h
    rcases hrecv : c.receiver with _ | position
    · rw [hrecv] at h
      cases h
      refine ⟨rfl, fun _ => ?_⟩
      have hlen : (sent ++ later).length = sent.length + later.length := List.length_append
      rw [remaining, hreplay, hrecv, hlen]
      exact (Nat.zero_add _).trans_le (Nat.le_add_right _ _)
    · rw [hrecv] at h
      dsimp only at h
      split_ifs at h with hlag
      · cases h
      · rcases hrun : receive (sent.drop position) position c with ⟨item', c''⟩
        rw [hrun] at h
        cases h
        have hsplit : (sent ++ later).drop position
            = sent.drop position ++ later.drop (position - sent.length) := List.drop_append
        obtain ⟨hhead, hdrained⟩ := receive_yields hrun hreplay hsplit
        refine ⟨?_, fun hnone => ?_⟩
        · rw [remaining, hreplay, hrecv]
          exact hhead
        · have hleft := hdrained hnone
          rw [List.length_drop] at hleft
          rw [remaining, hreplay, hrecv, List.nil_append, length_numbered, List.length_append]
          omega
  · rw [hreplay] at h
    cases h
    refine ⟨?_, fun hnone => absurd hnone (Option.some_ne_none _)⟩
    rw [remaining, hreplay]
    rfl

/-! ### After a snapshot -/

/-- The history after a position, as a replay shows it. -/
def replayed (history : List Accepted) (after : ℕ) : List (ℕ × Envelope) :=
  numberFrom (after + 1) ((history.drop after).map fun a => a.env.stamped a.entry.receivedAtMs)

/-- A bus on which the history is published first, and no id twice. -/
structure Publishes (bus : List Envelope) (history : List Accepted) : Prop where
  history_prefix : history.map (·.env) <+: bus
  distinct : (bus.map (·.messageId)).Nodup

section Snapshot

variable {log : Option (List LogEntry)} {history : List Accepted} {after : ℕ}
  {c c' : SubscriptionCursor}

/-- The cursor that a snapshot leaves. -/
lemma loadSnapshot_eq_ok (hviews : Views log history) (hrec : ∀ a ∈ history, a.Recorded)
    (h : c.loadSnapshot log after = .ok c') :
    c' = { c with
      replayDedup :=
        if (replayed history after).isEmpty then c.replayDedup
        else some (ExtTreeSet.ofList ((replayed history after).map (·.2.messageId)))
      replay := c.replay ++ replayed history after
      nextLiveOrdinal := some (history.length + 1) } := by
  rw [loadSnapshot] at h
  rcases hviews.snapshot hrec after with hok | ⟨herr, _⟩
  · rw [hok] at h
    exact (Except.ok.inj h).symm
  · rw [herr] at h
    cases h

/-- The ids of a replay are those of the history after the position. -/
lemma mem_replayed_ids {k : String} :
    k ∈ ExtTreeSet.ofList ((replayed history after).map (·.2.messageId))
      ↔ ∃ a ∈ history.drop after, a.env.messageId = k := by
  have hids : (replayed history after).map (·.2.messageId)
      = (history.drop after).map (·.env.messageId) := by
    rw [replayed, numberFrom_map, List.map_map]
    conv_rhs => rw [← map_snd_numberFrom (after + 1) (history.drop after), List.map_map]
    rfl
  rw [hids, ExtTreeSet.mem_ofList, List.contains_iff_mem, List.mem_map]

variable {r : ℕ} {bus : List Envelope}

/-- What a cursor at position `r` yields after a snapshot, but for what the filter does with the
bus. -/
theorem remaining_loadSnapshot (hviews : Views log history) (hrec : ∀ a ∈ history, a.Recorded)
    (h : c.loadSnapshot log after = .ok c') (hreplay : c.replay = []) (hrecv : c.receiver = some r)
    (bus : List Envelope) :
    c'.remaining bus = replayed history after
      ++ numberFrom (history.length + 1) (live (·.messageId) c'.replayDedup (bus.drop r)) := by
  have hc' := loadSnapshot_eq_ok hviews hrec h
  subst hc'
  rw [remaining]
  dsimp only
  rw [hreplay, hrecv, List.nil_append]
  rfl

/-- The filter of a cursor that knows only ids of the history. -/
def KnowsOnly (c : SubscriptionCursor) (history : List Accepted) : Prop :=
  ∀ seen, c.replayDedup = some seen → ∀ k ∈ seen, ∃ a ∈ history, a.env.messageId = k

lemma knowsOnly_new (receiver : ℕ) (history : List Accepted) : (new receiver).KnowsOnly history :=
  fun _ hseen => absurd hseen.symm (Option.some_ne_none _)

/-- After a snapshot the filter still knows only ids of the history. -/
lemma KnowsOnly.loadSnapshot (hold : c.KnowsOnly history) (hviews : Views log history)
    (hrec : ∀ a ∈ history, a.Recorded) (h : c.loadSnapshot log after = .ok c') :
    c'.KnowsOnly history := by
  have hc' := loadSnapshot_eq_ok hviews hrec h
  subst hc'
  intro seen hseen k hk
  dsimp only at hseen
  split_ifs at hseen with hempty
  · exact hold seen hseen k hk
  · cases hseen
    obtain ⟨a, ha, hid⟩ := mem_replayed_ids.mp hk
    exact ⟨a, List.mem_of_mem_drop ha, hid⟩

/-- What the filter must know to drop the buffered part of the history. -/
lemma knows_loadSnapshot_iff (hviews : Views log history) (hrec : ∀ a ∈ history, a.Recorded)
    (hdistinct : (history.map (·.env.messageId)).Nodup) (h : c.loadSnapshot log after = .ok c')
    (hafter : after ≤ history.length) :
    ((history.drop r).map (·.env) = [] ∨ ∃ seen, c'.replayDedup = some seen
        ∧ ∀ e ∈ (history.drop r).map (·.env), e.messageId ∈ seen)
      ↔ after ≤ r ∨ (after = history.length ∧ ∃ seen, c.replayDedup = some seen
        ∧ ∀ a ∈ history.drop r, a.env.messageId ∈ seen) := by
  have hc' := loadSnapshot_eq_ok hviews hrec h
  have hdedup := congrArg replayDedup hc'
  dsimp only at hdedup
  rw [hdedup, List.map_eq_nil_iff, List.drop_eq_nil_iff]
  simp only [List.forall_mem_map]
  rcases Nat.eq_or_lt_of_le hafter with heq | hlt
  · -- nothing is replayed, so the filter is the old one
    have hempty : (replayed history after).isEmpty = true := by
      rw [replayed, List.drop_of_length_le heq.ge]
      rfl
    rw [if_pos hempty, heq]
    simp only [true_and]
  · have hempty : ¬ (replayed history after).isEmpty = true := by
      rw [List.isEmpty_iff, ← List.length_eq_zero_iff, replayed, length_numberFrom,
        List.length_map, List.length_drop]
      omega
    rw [if_neg hempty]
    constructor
    · rintro (hend | ⟨seen, hseen, hknown⟩)
      · exact .inl (hafter.trans hend)
      · refine .inl (Nat.le_of_not_lt fun hbefore => ?_)
        cases hseen
        -- the first buffered envelope was accepted at or before the position
        obtain ⟨a, hget⟩ : ∃ a, history[r]? = some a :=
          ⟨_, List.getElem?_eq_getElem (hbefore.trans hlt)⟩
        have hbuffered : a ∈ history.drop r :=
          List.mem_of_getElem? (i := 0) (by rw [List.getElem?_drop, Nat.add_zero, hget])
        have hearly : a ∈ history.take after :=
          List.mem_of_getElem? (i := r) (by rw [List.getElem?_take_of_lt hbefore, hget])
        obtain ⟨b, hb, hid⟩ := mem_replayed_ids.mp (hknown a hbuffered)
        rw [← List.take_append_drop after history, List.map_append, List.nodup_append] at hdistinct
        exact hdistinct.2.2 _ (List.mem_map_of_mem hearly) _ (List.mem_map_of_mem hb) hid.symm
    · rintro (hge | ⟨heq, _⟩)
      · refine .inr ⟨_, rfl, fun a ha => mem_replayed_ids.mpr ⟨a, ?_, rfl⟩⟩
        rw [← Nat.sub_add_cancel hge, Nat.add_comm, ← List.drop_drop] at ha
        exact List.mem_of_mem_drop ha
      · omega

/-- A bus on which the history is published, seen from a position of the history. -/
lemma Publishes.drop (h : Publishes bus history) (hr : r ≤ history.length) :
    bus.drop r = (history.drop r).map (·.env) ++ bus.drop history.length := by
  obtain ⟨later, rfl⟩ := h.history_prefix
  have hlen : (history.map (·.env)).length = history.length := List.length_map _
  rw [List.drop_append_of_le_length (hlen ▸ hr), ← List.map_drop, ← hlen, List.drop_left]

/-- What is published after the history is new to a filter that knows only the history. -/
lemma Publishes.fresh (h : Publishes bus history) (hknows : c.KnowsOnly history)
    {seen : ExtTreeSet String} (hseen : c.replayDedup = some seen) :
    ∀ e ∈ bus.drop history.length, e.messageId ∉ seen := by
  intro e he hmem
  obtain ⟨a, ha, hid⟩ := hknows seen hseen _ hmem
  obtain ⟨later, rfl⟩ := h.history_prefix
  have hlen : (history.map (·.env)).length = history.length := List.length_map _
  rw [← hlen, List.drop_left] at he
  have hdistinct := h.distinct
  rw [List.map_append, List.nodup_append] at hdistinct
  exact hdistinct.2.2 _ (List.mem_map_of_mem (List.mem_map_of_mem ha)) _
    (List.mem_map_of_mem he) hid

/-- **Exactly when a snapshot makes a cursor yield the history after the position, each envelope
once and in order, and then what is published after it**: nothing buffered is at or before the
position, or nothing is replayed and the filter already knows everything buffered. -/
theorem remaining_loadSnapshot_iff (hviews : Views log history) (hrec : ∀ a ∈ history, a.Recorded)
    (hdistinct : (history.map (·.env.messageId)).Nodup) (hknows : c.KnowsOnly history)
    (h : c.loadSnapshot log after = .ok c') (hreplay : c.replay = []) (hrecv : c.receiver = some r)
    (hr : r ≤ history.length) (hafter : after ≤ history.length) (hbus : Publishes bus history) :
    c'.remaining bus = replayed history after
        ++ numberFrom (history.length + 1) (bus.drop history.length)
      ↔ after ≤ r ∨ (after = history.length ∧ ∃ seen, c.replayDedup = some seen
        ∧ ∀ a ∈ history.drop r, a.env.messageId ∈ seen) := by
  have hids : (((history.drop r).map (·.env)).map (·.messageId)).Nodup := by
    rw [List.map_map]
    exact hdistinct.sublist ((List.drop_sublist r history).map _)
  -- it is a question of where the filter cuts the bus
  rw [← knows_loadSnapshot_iff hviews hrec hdistinct h hafter,
    ← live_eq_iff hids fun seen hseen => hbus.fresh (hknows.loadSnapshot hviews hrec h) hseen,
    remaining_loadSnapshot hviews hrec h hreplay hrecv bus, hbus.drop hr,
    List.append_cancel_left_eq]
  refine ⟨fun heq => ?_, fun heq => by rw [heq]⟩
  have hmap := congrArg (List.map (·.2)) heq
  rwa [map_snd_numberFrom, map_snd_numberFrom] at hmap

end Snapshot

end SubscriptionCursor

end MacpRuntime
