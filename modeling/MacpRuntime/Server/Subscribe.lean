import Mathlib.Logic.Relation
import MacpRuntime.Server.Cursor

/-!
Subscribing over HTTP (`open` in `src/http/sse.rs`, `open_subscription_with` in `src/server.rs`),
against a session that goes on accepting.

A subscriber reads the high-water mark, is authorized under the session's lock, subscribes to the
bus, reads a snapshot of the log and then receives.  Between any two of these the holder of the lock
may append, compact and publish.  The lock makes the authorization wait for the publication of
whatever the high-water mark counted.

* `subscription_exact`: **until it lags, what a subscriber is given above its position is the
  accepted envelopes after it, each once, in order and with its ordinal**;
* `replay_fills_timestamp`: a replayed envelope that carried no timestamp shows the acceptance clock
  instead.
-/

namespace MacpRuntime

open Resume SubscriptionCursor

/-! ### The system -/

/-- How far a subscriber is.  `retried` tells the second attempt of `open` from the first. -/
inductive Phase where
  | readHighWater
  | authorize (position : ℕ) (retried : Bool)
  | subscribe (position : ℕ) (retried : Bool)
  | snapshot (position : ℕ) (retried : Bool) (cursor : SubscriptionCursor)
  | streaming (cursor : SubscriptionCursor)
  | closed

/-- A session's feed, a subscriber, and what it has been given. -/
structure Subscription where
  feed : Feed
  phase : Phase
  yielded : List (ℕ × Envelope)

/-- The position `open` starts from: no further than the high-water mark. -/
def openFloor (log : Option (List LogEntry)) (after : UInt64) : ℕ :=
  match subscribeSnapshot log (2 ^ 64 - 1) with
  | .ok (_, highWater) => min after.toNat highWater
  | .error _ => after.toNat

/-- Taking the session's lock for some accesses, or one access of its holder. -/
inductive Feed.Step : Feed → Feed → Prop
  | lock {f : Feed} {actions : List BusAction} (free : f.held = [])
      (critical : Critical f.log f.history none actions) : Step f { f with held := actions }
  | act {f : Feed} {action : BusAction} {rest : List BusAction} (held : f.held = action :: rest) :
      Step f ({ f with held := rest }.perform action)

/-- One access of the holder of the lock, or one step of a subscriber that asked for what comes
after `after`. -/
inductive Subscription.Step (after : UInt64) : Subscription → Subscription → Prop
  | write {f f' : Feed} {phase : Phase} {yielded : List (ℕ × Envelope)} (access : f.Step f') :
      Step after ⟨f, phase, yielded⟩ ⟨f', phase, yielded⟩
  | readHighWater {f : Feed} {yielded : List (ℕ × Envelope)} :
      Step after ⟨f, .readHighWater, yielded⟩
        ⟨f, .authorize (openFloor f.log after) false, yielded⟩
  -- the session's lock is taken and released
  | authorize {f : Feed} {position : ℕ} {retried : Bool} {yielded : List (ℕ × Envelope)}
      (free : f.held = []) :
      Step after ⟨f, .authorize position retried, yielded⟩
        ⟨f, .subscribe position retried, yielded⟩
  | refuse {f : Feed} {position : ℕ} {retried : Bool} {yielded : List (ℕ × Envelope)} :
      Step after ⟨f, .authorize position retried, yielded⟩ ⟨f, .closed, yielded⟩
  | subscribe {f : Feed} {position : ℕ} {retried : Bool} {yielded : List (ℕ × Envelope)} :
      Step after ⟨f, .subscribe position retried, yielded⟩
        ⟨f, .snapshot position retried (.new f.sent.length), yielded⟩
  | snapshot {f : Feed} {position : ℕ} {retried : Bool} {c c' : SubscriptionCursor}
      {yielded : List (ℕ × Envelope)} (read : c.loadSnapshot f.log position = .ok c') :
      Step after ⟨f, .snapshot position retried c, yielded⟩ ⟨f, .streaming c', yielded⟩
  -- the floor fell below a compaction, the client's own position did not
  | retry {f : Feed} {position base : ℕ} {c : SubscriptionCursor}
      {yielded : List (ℕ × Envelope)} (read : c.loadSnapshot f.log position = .error base)
      (below : position < after.toNat) (available : base ≤ after.toNat) :
      Step after ⟨f, .snapshot position false c, yielded⟩
        ⟨f, .authorize after.toNat true, yielded⟩
  | unavailable {f : Feed} {position base : ℕ} {retried : Bool} {c : SubscriptionCursor}
      {yielded : List (ℕ × Envelope)} (read : c.loadSnapshot f.log position = .error base) :
      Step after ⟨f, .snapshot position retried c, yielded⟩ ⟨f, .closed, yielded⟩
  | receive {f : Feed} {c c' : SubscriptionCursor} {item : Option (ℕ × Envelope)}
      {yielded : List (ℕ × Envelope)} (next : c.tryNext f.sent = (.ok item, c')) :
      Step after ⟨f, .streaming c, yielded⟩ ⟨f, .streaming c', yielded ++ item.toList⟩
  | lag {f : Feed} {c c' : SubscriptionCursor} {lagged : StreamLagged}
      {yielded : List (ℕ × Envelope)} (next : c.tryNext f.sent = (.error lagged, c')) :
      Step after ⟨f, .streaming c, yielded⟩ ⟨f, .closed, yielded⟩

/-! ### What the holder of the lock leaves -/

/-- The feed after some accesses: nothing is taken back, and nothing is accepted once the log is
compacted. -/
structure Feed.Grows (f f' : Feed) : Prop where
  history_prefix : f.history <+: f'.history
  sent_prefix : f.sent <+: f'.sent
  base_le : logBase f.log ≤ logBase f'.log
  compacted : 0 < logBase f.log → f'.history = f.history

section Writer

variable {f f' : Feed}

lemma Feed.Step.valid (hstep : f.Step f') (h : f.Valid) : f'.Valid := by
  cases hstep with
  | lock hfree hcrit =>
    exact ⟨h.views, h.recorded, h.distinct, none,
      (List.append_nil _).trans (h.sent_of_free hfree), hcrit⟩
  | act hheld => exact h.act hheld

lemma Feed.Step.grows (hstep : f.Step f') (h : f.Valid) : f.Grows f' := by
  cases hstep with
  | lock _ _ => exact ⟨List.prefix_refl _, List.prefix_refl _, le_rfl, fun _ => rfl⟩
  | act hheld =>
    obtain ⟨pending, _, hcrit⟩ := h.holding
    rw [hheld] at hcrit
    cases hcrit with
    | keep _ hle _ => exact ⟨List.prefix_refl _, List.prefix_refl _, hle, fun _ => rfl⟩
    | accept _ _ hbase _ =>
      refine ⟨List.prefix_append _ _, List.prefix_refl _, ?_, fun hpos => ?_⟩
      · rw [hbase]
        exact Nat.zero_le _
      · omega
    | publish _ => exact ⟨List.prefix_refl _, List.prefix_append _ _, le_rfl, fun _ => rfl⟩

end Writer

lemma Feed.Valid.length_sent_le {f : Feed} (h : f.Valid) : f.sent.length ≤ f.history.length := by
  have hle := h.sent_prefix.length_le
  rwa [List.length_map] at hle

/-! ### The invariant -/

/-- A position that the subscriber may ask for: everything up to it is accepted, or it is the
client's own and nothing is accepted any more. -/
structure PositionReached (f : Feed) (after position : ℕ) : Prop where
  le_after : position ≤ after
  reached : position ≤ f.history.length ∨ (position = after ∧ 0 < logBase f.log)

/-- A position on the bus from which a subscriber that asked for `position` misses nothing and is
given nothing twice. -/
structure Attached (f : Feed) (after position r : ℕ) : Prop where
  le_after : position ≤ after
  le_sent : r ≤ f.sent.length
  attached : position ≤ r ∨ (position = after ∧ 0 < logBase f.log ∧ r = f.history.length)

/-- What a streaming subscriber has been given and will be given, whatever is published later:
the replay of the history at the snapshot, and then the bus. -/
def Exact (f : Feed) (after : ℕ) (c : SubscriptionCursor) (yielded : List (ℕ × Envelope)) : Prop :=
  ∃ position read : ℕ, position ≤ after ∧ read ≤ f.history.length
    ∧ (position ≤ read ∨ position = after)
    ∧ ∀ bus, Publishes bus f.history → yielded ++ c.remaining bus
      = replayed (f.history.take read) position ++ numberFrom (read + 1) (bus.drop read)

/-- What holds in each phase. -/
def Phase.Sound (f : Feed) (after : ℕ) (yielded : List (ℕ × Envelope)) : Phase → Prop
  | .readHighWater => yielded = []
  | .authorize position _ => yielded = [] ∧ PositionReached f after position
  | .subscribe position _ => yielded = [] ∧ Attached f after position f.sent.length
  | .snapshot position _ c => yielded = [] ∧ ∃ r, c = .new r ∧ Attached f after position r
  | .streaming c => Exact f after c yielded
  | .closed => True

section Growth

variable {f f' : Feed} {after position r : ℕ} {c : SubscriptionCursor}
  {yielded : List (ℕ × Envelope)}

lemma PositionReached.grows (h : PositionReached f after position) (hg : f.Grows f') :
    PositionReached f' after position := by
  refine ⟨h.le_after, ?_⟩
  rcases h.reached with hle | ⟨heq, hpos⟩
  · exact .inl (hle.trans hg.history_prefix.length_le)
  · exact .inr ⟨heq, hpos.trans_le hg.base_le⟩

lemma Attached.grows (h : Attached f after position r) (hg : f.Grows f') :
    Attached f' after position r := by
  refine ⟨h.le_after, h.le_sent.trans hg.sent_prefix.length_le, ?_⟩
  rcases h.attached with hle | ⟨heq, hpos, hr⟩
  · exact .inl hle
  · exact .inr ⟨heq, hpos.trans_le hg.base_le, by rw [hg.compacted hpos, hr]⟩

/-- A subscriber that is about to subscribe is attached to the end of the bus. -/
lemma Attached.grows_sent (h : Attached f after position f.sent.length) (hg : f.Grows f')
    (hv' : f'.Valid) : Attached f' after position f'.sent.length := by
  refine ⟨h.le_after, le_rfl, ?_⟩
  have hle := hg.sent_prefix.length_le
  rcases h.attached with hpos | ⟨heq, hpos, hr⟩
  · exact .inl (hpos.trans hle)
  · have hlen := hv'.length_sent_le
    refine .inr ⟨heq, hpos.trans_le hg.base_le, ?_⟩
    rw [hg.compacted hpos] at hlen ⊢
    omega

lemma SubscriptionCursor.Publishes.of_grows {bus : List Envelope}
    (h : Publishes bus f'.history) (hg : f.Grows f') : Publishes bus f.history :=
  ⟨(hg.history_prefix.map _).trans h.history_prefix, h.distinct⟩

lemma Exact.grows (h : Exact f after c yielded) (hg : f.Grows f') : Exact f' after c yielded := by
  obtain ⟨position, read, hle, hread, hpos, hall⟩ := h
  refine ⟨position, read, hle, hread.trans hg.history_prefix.length_le, hpos, fun bus hbus => ?_⟩
  obtain ⟨later, hlater⟩ := hg.history_prefix
  rw [← hlater, List.take_append_of_le_length hread]
  exact hall bus (hbus.of_grows hg)

/-- **Whatever the holder of the lock does keeps the subscriber's invariant.** -/
theorem Phase.Sound.grows {phase : Phase} (h : phase.Sound f after yielded) (hg : f.Grows f')
    (hv' : f'.Valid) : phase.Sound f' after yielded := by
  cases phase with
  | readHighWater => exact h
  | authorize position retried => exact ⟨h.1, h.2.grows hg⟩
  | subscribe position retried => exact ⟨h.1, h.2.grows_sent hg hv'⟩
  | snapshot position retried c =>
    obtain ⟨hnil, r, hc, hat⟩ := h
    exact ⟨hnil, r, hc, hat.grows hg⟩
  | streaming c => exact Exact.grows h hg
  | closed => trivial

end Growth

/-! ### The subscriber's steps -/

section Steps

variable {f : Feed} {after : UInt64} {position r : ℕ} {c c' : SubscriptionCursor}
  {yielded : List (ℕ × Envelope)}

/-- The high-water mark counts accepted envelopes. -/
lemma Feed.Valid.reached_floor (h : f.Valid) :
    PositionReached f after.toNat (openFloor f.log after) := by
  have hmax : after.toNat < 2 ^ 64 := after.toNat_lt
  rw [openFloor]
  rcases h.views.snapshot h.recorded (2 ^ 64 - 1) with hok | ⟨herr, hlt, hle⟩
  · rw [hok]
    exact ⟨Nat.min_le_left _ _, .inl (Nat.min_le_right _ _)⟩
  · rw [herr]
    exact ⟨le_rfl, .inl ((Nat.le_sub_one_of_lt hmax).trans (hlt.le.trans hle))⟩

/-- **The authorization waits for the lock**: what was accepted before it is published after
it. -/
lemma PositionReached.authorize (h : PositionReached f after.toNat position) (hv : f.Valid)
    (hfree : f.held = []) : Attached f after.toNat position f.sent.length := by
  have hlen : f.sent.length = f.history.length := by
    rw [hv.sent_of_free hfree, List.length_map]
  refine ⟨h.le_after, le_rfl, ?_⟩
  rcases h.reached with hle | ⟨heq, hpos⟩
  · exact .inl (hle.trans_eq hlen.symm)
  · exact .inr ⟨heq, hpos, hlen⟩

/-- A snapshot below the base finds the log compacted. -/
lemma Feed.Valid.reached_retry (h : f.Valid) {base : ℕ}
    (hread : c.loadSnapshot f.log position = .error base) :
    PositionReached f after.toNat after.toNat := by
  refine ⟨le_rfl, .inr ⟨rfl, ?_⟩⟩
  rw [loadSnapshot] at hread
  rcases h.views.snapshot h.recorded position with hok | ⟨_, hlt, _⟩
  · rw [hok] at hread
    cases hread
  · exact (Nat.zero_le _).trans_lt hlt

/-- **The snapshot of an attached subscriber is exact.** -/
theorem Attached.snapshot (h : Attached f after.toNat position r) (hv : f.Valid)
    (hread : (SubscriptionCursor.new r).loadSnapshot f.log position = .ok c') :
    Exact f after.toNat c' [] := by
  have hr : r ≤ f.history.length := h.le_sent.trans hv.length_sent_le
  refine ⟨position, f.history.length, h.le_after, le_rfl, ?_, ?_⟩
  · rcases h.attached with hle | ⟨heq, _⟩
    · exact .inl (hle.trans hr)
    · exact .inr heq
  rw [List.take_length]
  rcases Nat.lt_or_ge f.history.length position with hbeyond | hwithin
  · -- beyond the end nothing is replayed and the filter is not armed
    have hend : r = f.history.length := by
      rcases h.attached with hle | ⟨_, _, hend⟩
      · omega
      · exact hend
    intro bus _
    have hnone : c'.replayDedup = none := by
      rw [loadSnapshot_eq_ok hv.views hv.recorded hread]
      dsimp only
      rw [if_pos]
      · rfl
      · rw [replayed, List.drop_of_length_le hbeyond.le]
        rfl
    rw [List.nil_append, remaining_loadSnapshot hv.views hv.recorded hread rfl rfl bus, hnone,
      live_none, hend]
  · have hbefore : position ≤ r := by
      rcases h.attached with hle | ⟨_, _, hend⟩
      · exact hle
      · exact hwithin.trans_eq hend.symm
    exact fun bus hbus => (remaining_loadSnapshot_iff hv.views hv.recorded hv.distinct
      (knowsOnly_new r f.history) hread rfl rfl hr hwithin hbus).mpr (.inl hbefore)

/-- **A receive keeps the account**: what it yields was the next to come. -/
theorem Exact.receive {a : ℕ} {item : Option (ℕ × Envelope)} (h : Exact f a c yielded)
    (hv : f.Valid) (hnext : c.tryNext f.sent = (.ok item, c')) :
    Exact f a c' (yielded ++ item.toList) := by
  obtain ⟨position, read, hle, hread, hpos, hall⟩ := h
  refine ⟨position, read, hle, hread, hpos, fun bus hbus => ?_⟩
  have hhead := (tryNext_yields hnext (hv.sent_prefix.trans hbus.history_prefix)).1
  rw [List.append_assoc, ← hhead]
  exact hall bus hbus

end Steps

/-- **Every step keeps the invariant.** -/
theorem Subscription.Step.sound {after : UInt64} {s s' : Subscription}
    (h : Subscription.Step after s s') (hv : s.feed.Valid)
    (hs : s.phase.Sound s.feed after.toNat s.yielded) :
    s'.feed.Valid ∧ s'.phase.Sound s'.feed after.toNat s'.yielded := by
  cases h with
  | write haccess => exact ⟨haccess.valid hv, hs.grows (haccess.grows hv) (haccess.valid hv)⟩
  | readHighWater => exact ⟨hv, hs, hv.reached_floor⟩
  | authorize hfree => exact ⟨hv, hs.1, hs.2.authorize hv hfree⟩
  | refuse => exact ⟨hv, trivial⟩
  | subscribe => exact ⟨hv, hs.1, _, rfl, hs.2⟩
  | snapshot hread =>
    obtain ⟨hnil, r, rfl, hat⟩ := hs
    refine ⟨hv, ?_⟩
    dsimp only at hnil ⊢
    rw [hnil]
    exact hat.snapshot hv hread
  | retry hread _ _ => exact ⟨hv, hs.1, hv.reached_retry hread⟩
  | unavailable _ => exact ⟨hv, trivial⟩
  | receive hnext => exact ⟨hv, Exact.receive hs hv hnext⟩
  | lag _ => exact ⟨hv, trivial⟩

/-- **The invariant holds however the steps interleave.** -/
theorem Subscription.sound_of_reachable {after : UInt64} {f₀ : Feed} (hvalid : f₀.Valid)
    {s : Subscription}
    (h : Relation.ReflTransGen (Subscription.Step after) ⟨f₀, .readHighWater, []⟩ s) :
    s.feed.Valid ∧ s.phase.Sound s.feed after.toNat s.yielded := by
  induction h with
  | refl => exact ⟨hvalid, rfl⟩
  | tail _ hstep ih => exact hstep.sound ih.1 ih.2

/-! ### What a subscriber is given -/

/-- An item is an accepted envelope with its ordinal, up to a missing timestamp. -/
def Shows (item : ℕ × Envelope) (a : ℕ × Accepted) : Prop :=
  item.1 = a.1 ∧ (item.2 = a.2.env
    ∨ (a.2.env.timestampUnixMs = 0 ∧ item.2 = a.2.env.stamped a.2.entry.receivedAtMs))

lemma Envelope.stamped_cases (env : Envelope) (atMs : Int64) :
    env.stamped atMs = env ∨ env.timestampUnixMs = 0 := by
  by_cases hzero : env.timestampUnixMs = 0
  · exact .inr hzero
  · left
    rw [Envelope.stamped, if_pos hzero]

/-- Accepted envelopes shown with the same ordinals. -/
lemma forall₂_shows {g : Accepted → Envelope}
    (hg : ∀ a, g a = a.env ∨ (a.env.timestampUnixMs = 0 ∧ g a = a.env.stamped a.entry.receivedAtMs))
    (n : ℕ) (history : List Accepted) :
    List.Forall₂ Shows (numberFrom n (history.map g)) (numberFrom n history) := by
  induction history generalizing n with
  | nil => exact .nil
  | cons a history ih => exact .cons ⟨rfl, hg a⟩ (ih (n + 1))

/-- What an exact subscriber is given in all: the history from some position at or before its
own. -/
lemma Exact.total {f : Feed} {after : ℕ} {c : SubscriptionCursor} {yielded : List (ℕ × Envelope)}
    (h : Exact f after c yielded) (hv : f.Valid) :
    List.Forall₂ Shows
      ((yielded ++ c.remaining (f.history.map (·.env))).filter fun p => after < p.1)
      (numberFrom (after + 1) (f.history.drop after)) := by
  obtain ⟨position, read, hle, hread, hpos, hall⟩ := h
  have hself : Publishes (f.history.map (·.env)) f.history :=
    ⟨List.prefix_refl _, by rw [List.map_map]; exact hv.distinct⟩
  have hlive := forall₂_shows (fun a => Or.inl (rfl : a.env = a.env)) (read + 1)
    (f.history.drop read)
  rw [List.map_drop] at hlive
  have hstamp (a : Accepted) : a.env.stamped a.entry.receivedAtMs = a.env
      ∨ (a.env.timestampUnixMs = 0
        ∧ a.env.stamped a.entry.receivedAtMs = a.env.stamped a.entry.receivedAtMs) :=
    (a.env.stamped_cases _).imp_right fun hzero => ⟨hzero, rfl⟩
  -- the first ordinal given
  obtain ⟨first, hfirst, htotal⟩ : ∃ first ≤ after, List.Forall₂ Shows
      (yielded ++ c.remaining (f.history.map (·.env)))
      (numberFrom (first + 1) (f.history.drop first)) := by
    rw [hall _ hself]
    rcases Nat.lt_or_ge read position with hbeyond | hwithin
    · have hat : position = after := hpos.resolve_left (by omega)
      refine ⟨read, by omega, ?_⟩
      rw [replayed, List.drop_of_length_le ((List.length_take_le _ _).trans hbeyond.le)]
      exact hlive
    · refine ⟨position, hle, ?_⟩
      have hsplit : f.history.drop position
          = (f.history.take read).drop position ++ f.history.drop read := by
        conv_lhs => rw [← List.take_append_drop read f.history]
        rw [List.drop_append_of_le_length (by rw [List.length_take]; omega)]
      rw [hsplit, numberFrom_append, replayed]
      have hcount : position + 1 + ((f.history.take read).drop position).length = read + 1 := by
        rw [List.length_drop, List.length_take]
        omega
      rw [hcount]
      exact List.rel_append (forall₂_shows hstamp _ _) hlive
  have hsame (item : ℕ × Envelope) (a : ℕ × Accepted) (hshow : Shows item a) :
      decide (after < item.1) = true ↔ decide (after < a.1) = true := by rw [hshow.1]
  have habove := List.rel_filter hsame htotal
  rwa [filter_numberFrom (by omega), List.drop_drop,
    show first + (after + 1 - (first + 1)) = after by omega] at habove

/-- **Exact subscription**: however the subscriber's steps interleave with those of the holder of
the lock, what a streaming subscriber has been given above its position is the accepted envelopes
after it, each once, in order and with its ordinal; and once it finds nothing more, it has been
given everything published. -/
theorem subscription_exact {after : UInt64} {f₀ : Feed} (hvalid : f₀.Valid) {s : Subscription}
    (hreach : Relation.ReflTransGen (Subscription.Step after) ⟨f₀, .readHighWater, []⟩ s)
    {c : SubscriptionCursor} (hphase : s.phase = .streaming c) :
    List.Forall₂ Shows (s.yielded.filter fun p => after.toNat < p.1)
        ((numberFrom (after.toNat + 1) (s.feed.history.drop after.toNat)).take
          (s.yielded.filter fun p => after.toNat < p.1).length)
      ∧ ∀ c', c.tryNext s.feed.sent = (.ok none, c') →
        s.feed.sent.length
          ≤ after.toNat + (s.yielded.filter fun p => after.toNat < p.1).length := by
  obtain ⟨hv, hs⟩ := Subscription.sound_of_reachable hvalid hreach
  rw [hphase] at hs
  have htotal := Exact.total hs hv
  rw [List.filter_append] at htotal
  refine ⟨?_, fun c' hnext => ?_⟩
  · have hbefore := List.forall₂_take
      (s.yielded.filter fun p => after.toNat < p.1).length htotal
    rwa [List.take_left] at hbefore
  · have hleft := (tryNext_yields hnext hv.sent_prefix).2 rfl
    have hlen := htotal.length_eq
    have hsub := List.length_filter_le (fun p => after.toNat < p.1)
      (c.remaining (s.feed.history.map (·.env)))
    rw [List.length_append, length_numberFrom, List.length_drop] at hlen
    rw [List.length_map] at hleft
    omega

/-! ### A subscription during writes -/

/-- A message with a given timestamp, accepted at 7. -/
def acceptedMessage (timestampUnixMs : Int64) (id : String) : Accepted :=
  let env : Envelope := ⟨macpVersion, "ext.m", "Ping", id, "s", "a", timestampUnixMs, []⟩
  ⟨env, makeIncomingEntry env 7⟩

/-- A session that has accepted and published messages with the given ids. -/
def feedOf (timestampUnixMs : Int64) (ids : List String) : Feed :=
  let history := ids.map (acceptedMessage timestampUnixMs)
  ⟨history, some (history.map (·.entry)), history.map (·.env), []⟩

lemma feedOf_valid (t : Int64) : (feedOf t ["m1"]).Valid where
  views := .entries (Nat.zero_le _) rfl
  recorded a ha := by
    rw [List.mem_singleton.mp ha]
    exact Accepted.recorded_message rfl 7
  distinct := List.nodup_singleton _
  holding := ⟨none, rfl, .done⟩

/-- The lock may be taken to accept two more messages. -/
lemma feedOf_lock : (feedOf 5 ["m1"]).Step { feedOf 5 ["m1"] with
    held := [.accept (acceptedMessage 5 "m2"), .publish (acceptedMessage 5 "m2").env,
      .accept (acceptedMessage 5 "m3"), .publish (acceptedMessage 5 "m3").env] } := by
  refine .lock rfl (.accept (Accepted.recorded_message rfl 7) ?_ rfl
    (.publish (.accept (Accepted.recorded_message rfl 7) ?_ rfl (.publish .done))))
  · decide
  · decide

/-- The subscriber asks for what comes after the first message.  It subscribes between the append
and the publication of the second, and reads its snapshot before the third. -/
lemma subscribed_during_writes :
    Relation.ReflTransGen (Subscription.Step 1) ⟨feedOf 5 ["m1"], .readHighWater, []⟩
      ⟨feedOf 5 ["m1", "m2", "m3"], .streaming ⟨some 3, [], none, some 4⟩,
        [(2, (acceptedMessage 5 "m2").env), (3, (acceptedMessage 5 "m3").env)]⟩ := by
  have hread : (SubscriptionCursor.new 1).loadSnapshot (feedOf 5 ["m1", "m2"]).log 1
      = .ok ⟨some 1, [(2, (acceptedMessage 5 "m2").env)],
          some (Std.ExtTreeSet.ofList ["m2"]), some 3⟩ := rfl
  -- the second message comes from the snapshot, and its copy on the bus is skipped
  have hreplayed : (SubscriptionCursor.mk (some 1) [(2, (acceptedMessage 5 "m2").env)]
        (some (Std.ExtTreeSet.ofList ["m2"])) (some 3)).tryNext (feedOf 5 ["m1", "m2", "m3"]).sent
      = (.ok (some (2, (acceptedMessage 5 "m2").env)),
          ⟨some 1, [], some (Std.ExtTreeSet.ofList ["m2"]), some 3⟩) := rfl
  have hlive : (SubscriptionCursor.mk (some 1) [] (some (Std.ExtTreeSet.ofList ["m2"]))
        (some 3)).tryNext (feedOf 5 ["m1", "m2", "m3"]).sent
      = (.ok (some (3, (acceptedMessage 5 "m3").env)), ⟨some 3, [], none, some 4⟩) := rfl
  exact .tail (.tail (.tail (.tail (.tail (.tail (.tail (.tail (.tail (.tail (.single
    .readHighWater) (.authorize rfl)) (.write feedOf_lock)) (.write (.act rfl))) .subscribe)
    (.write (.act rfl))) (.snapshot hread)) (.write (.act rfl))) (.write (.act rfl)))
    (.receive hreplayed)) (.receive hlive)

theorem subscription_exact_during_writes :
    List.Forall₂ Shows [(2, (acceptedMessage 5 "m2").env), (3, (acceptedMessage 5 "m3").env)]
        [(2, acceptedMessage 5 "m2"), (3, acceptedMessage 5 "m3")]
      ∧ (feedOf 5 ["m1", "m2", "m3"]).sent.length ≤ (1 : UInt64).toNat + 2 := by
  obtain ⟨hshows, hall⟩ := subscription_exact (feedOf_valid 5) subscribed_during_writes rfl
  exact ⟨hshows, hall _ rfl⟩

/-- **A replay fills in a missing timestamp**: the message was accepted with the timestamp 0 at
clock 7, and the subscriber is given it with the timestamp 7. -/
theorem replay_fills_timestamp :
    (feedOf 0 ["m1"]).Valid ∧ ∃ c yielded,
      Relation.ReflTransGen (Subscription.Step 0) ⟨feedOf 0 ["m1"], .readHighWater, []⟩
          ⟨feedOf 0 ["m1"], .streaming c, yielded⟩
        ∧ yielded.filter (fun p => (0 : UInt64).toNat < p.1)
          ≠ numberFrom 1 ((feedOf 0 ["m1"]).history.map (·.env)) := by
  refine ⟨feedOf_valid 0, _, _, .tail (.tail (.tail (.tail (.single .readHighWater)
    (.authorize rfl)) .subscribe) (.snapshot rfl)) (.receive rfl), fun heq => ?_⟩
  have hstamp := congrArg (List.map fun p => p.2.timestampUnixMs) heq
  revert hstamp
  decide

end MacpRuntime
