import MacpRuntime.Server.Subscribe

/-!
Subscribing on a gRPC stream (`process_subscribe_frame` in `src/server.rs`): a stream that is
already bound keeps its receiver, and with it whatever is buffered there.

* `GrpcStream.ExactAfter`: what a stream has yielded since a subscribe frame is the accepted
  envelopes after the frame's position, each once and in order;
* `resubscribe_exact_iff`: **exactly when a frame is followed by nothing else**: the receiver
  already lags, nothing at or before the position is buffered, or nothing is replayed and the filter
  still knows all that is buffered;
* `resubscribe_repeats`: a frame on a bound stream that yields one envelope twice and another that
  it did not ask for.
-/

namespace MacpRuntime

open Resume SubscriptionCursor

/-! ### Streams -/

/-- Where a stream is with a subscribe frame. -/
inductive FramePhase where
  | idle
  | authorized (afterSequence : ℕ)
  | attached (afterSequence : ℕ)
  deriving DecidableEq, Repr

/-- A stream, the session it is bound to, and the envelopes yielded since the last subscribe
frame.  The wire carries no ordinals. -/
structure GrpcStream where
  feed : Feed
  frame : FramePhase
  cursor : Option SubscriptionCursor
  yielded : List Envelope

/-- A stream that is not bound yet. -/
def GrpcStream.opened (feed : Feed) : GrpcStream := ⟨feed, .idle, none, []⟩

/-- The cursor of a frame: the stream's own as long as it is live. -/
def frameCursor (feed : Feed) (cursor : Option SubscriptionCursor) : SubscriptionCursor :=
  match cursor with
  | some c => if c.isLive then c else c.attach feed.sent.length
  | none => .new feed.sent.length

/-- The stream after a subscribe frame whose snapshot left the cursor `c`: the replay goes out at
once. -/
def GrpcStream.served (s : GrpcStream) (c : SubscriptionCursor) : GrpcStream :=
  { s with frame := .idle, cursor := some c.takeReplay.2, yielded := c.takeReplay.1.map (·.2) }

/-- One access of the holder of the lock, or one receive of the stream. -/
inductive GrpcStream.Flow : GrpcStream → GrpcStream → Prop
  | write {s : GrpcStream} {f' : Feed} (access : s.feed.Step f') : Flow s { s with feed := f' }
  | receive {s : GrpcStream} {c c' : SubscriptionCursor} {item : Option (ℕ × Envelope)}
      (idle : s.frame = .idle) (bound : s.cursor = some c)
      (next : c.tryNext s.feed.sent = (.ok item, c')) :
      Flow s { s with cursor := some c', yielded := s.yielded ++ item.toList.map (·.2) }

/-- One step of a stream.  A frame that ends the stream is no step; one that is refused inline
changes nothing. -/
inductive GrpcStream.Step : GrpcStream → GrpcStream → Prop
  | flow {s s' : GrpcStream} (h : s.Flow s') : Step s s'
  -- an envelope frame binds the stream to the live bus
  | bindLive {s : GrpcStream} (idle : s.frame = .idle) :
      Step s { s with cursor := some (frameCursor s.feed s.cursor) }
  -- the session's lock is taken and released
  | authorize {s : GrpcStream} {afterSequence : ℕ} (idle : s.frame = .idle)
      (free : s.feed.held = []) : Step s { s with frame := .authorized afterSequence }
  | attach {s : GrpcStream} {afterSequence : ℕ} (authorized : s.frame = .authorized afterSequence) :
      Step s { s with
        frame := .attached afterSequence
        cursor := some (frameCursor s.feed s.cursor) }
  | snapshot {s : GrpcStream} {c c' : SubscriptionCursor} {afterSequence : ℕ}
      (attached : s.frame = .attached afterSequence) (bound : s.cursor = some c)
      (read : c.loadSnapshot s.feed.log afterSequence = .ok c') : Step s (s.served c')

/-- A cursor as a stream has it between two frames. -/
structure SubscriptionCursor.Bound (c : SubscriptionCursor) (f : Feed) : Prop where
  receiver : ∃ r ≤ f.sent.length, c.receiver = some r
  replay : c.replay = []
  knows : c.KnowsOnly f.history

/-- The stream's invariant. -/
structure GrpcStream.Sound (s : GrpcStream) : Prop where
  valid : s.feed.Valid
  bound : ∀ c, s.cursor = some c → c.Bound s.feed

section Bound

variable {f f' : Feed} {c c' : SubscriptionCursor}

lemma SubscriptionCursor.Bound.grows (h : c.Bound f) (hg : f.Grows f') : c.Bound f' := by
  obtain ⟨r, hr, hrecv⟩ := h.receiver
  refine ⟨⟨r, hr.trans hg.sent_prefix.length_le, hrecv⟩, h.replay, fun seen hseen k hk => ?_⟩
  obtain ⟨a, ha, hid⟩ := h.knows seen hseen k hk
  exact ⟨a, hg.history_prefix.subset ha, hid⟩

/-- A stream that is bound stays on its receiver; one that is not begins at the end of the bus. -/
lemma bound_frameCursor {cursor : Option SubscriptionCursor}
    (h : ∀ c, cursor = some c → c.Bound f) : (frameCursor f cursor).Bound f := by
  cases cursor with
  | none => exact ⟨⟨_, le_rfl, rfl⟩, rfl, knowsOnly_new _ _⟩
  | some c =>
    obtain ⟨⟨r, hr, hrecv⟩, hreplay, hknows⟩ := h c rfl
    have hlive : c.isLive = true := by rw [isLive, hrecv]; rfl
    rw [frameCursor, if_pos hlive]
    exact ⟨⟨r, hr, hrecv⟩, hreplay, hknows⟩

lemma SubscriptionCursor.Bound.snapshot (h : c.Bound f) (hv : f.Valid) {after : ℕ}
    (hread : c.loadSnapshot f.log after = .ok c') : c'.takeReplay.2.Bound f := by
  have hknows : c'.KnowsOnly f.history := h.knows.loadSnapshot hv.views hv.recorded hread
  have hc' := loadSnapshot_eq_ok hv.views hv.recorded hread
  refine ⟨?_, rfl, hknows⟩
  subst hc'
  exact h.receiver

/-- A filter that passes an item on knows nothing new. -/
lemma knows_of_skip {dedup dedup' : Option (Std.ExtTreeSet String)} {k : String} {skipped : Bool}
    (h : skip dedup k = (skipped, dedup')) {seen' : Std.ExtTreeSet String}
    (hseen : dedup' = some seen') : ∃ seen, dedup = some seen ∧ ∀ x ∈ seen', x ∈ seen := by
  subst hseen
  cases dedup with
  | none => cases h
  | some seen =>
    rw [skip] at h
    split_ifs at h
    · cases h
      exact ⟨seen, rfl, fun _ => Std.ExtTreeSet.mem_of_mem_erase⟩
    · cases h

/-- What the receive loop leaves: a receiver further down the buffer, and no new ids. -/
lemma receive_bound {buffered : List Envelope} {position : ℕ} {item : Option (ℕ × Envelope)}
    {history : List Accepted} (h : receive buffered position c = (item, c'))
    (hknows : c.KnowsOnly history) :
    (∃ r ≤ position + buffered.length, c'.receiver = some r) ∧ c'.replay = c.replay
      ∧ c'.KnowsOnly history
      ∧ (item = none → c'.receiver = some (position + buffered.length)) := by
  induction buffered generalizing position c with
  | nil =>
    cases h
    exact ⟨⟨position, le_rfl, rfl⟩, rfl, hknows, fun _ => rfl⟩
  | cons env buffered ih =>
    rw [receive, shouldSkipReplayed] at h
    rcases hskip : skip c.replayDedup env.messageId with ⟨_ | _, dedup⟩
    · have hdisarmed := skip_passed hskip
      subst hdisarmed
      rw [hskip] at h
      dsimp only at h
      rw [number_eq] at h
      cases h
      refine ⟨⟨position + 1, ?_, rfl⟩, rfl,
        fun _ hseen => absurd hseen.symm (Option.some_ne_none _),
        fun hnone => absurd hnone (Option.some_ne_none _)⟩
      rw [List.length_cons]
      omega
    · rw [hskip] at h
      dsimp only at h
      have hspent : KnowsOnly { c with replayDedup := dedup } history := by
        intro seen' hseen k hk
        obtain ⟨seen, hold, hsub⟩ := knows_of_skip hskip hseen
        exact hknows seen hold k (hsub k hk)
      have hcount : position + (env :: buffered).length = position + 1 + buffered.length := by
        rw [List.length_cons]
        omega
      have hrest := ih h hspent
      rwa [← hcount] at hrest

/-- A receive that does not lag, and where it leaves the receiver. -/
lemma SubscriptionCursor.Bound.receive (h : c.Bound f) {item : Option (ℕ × Envelope)}
    (hnext : c.tryNext f.sent = (.ok item, c')) :
    c'.Bound f ∧ (item = none → c'.receiver = some f.sent.length) := by
  obtain ⟨⟨r, hr, hrecv⟩, hreplay, hknows⟩ := h
  rw [tryNext, hreplay, hrecv] at hnext
  dsimp only at hnext
  split_ifs at hnext
  · cases hnext
  · rcases hrun : SubscriptionCursor.receive (f.sent.drop r) r c with ⟨item', c''⟩
    rw [hrun] at hnext
    cases hnext
    obtain ⟨⟨r', hr', hrecv'⟩, hreplay', hknows', hend⟩ := receive_bound hrun hknows
    have hcount : r + (f.sent.drop r).length = f.sent.length := by
      rw [List.length_drop]
      omega
    rw [hcount] at hr' hend
    exact ⟨⟨⟨r', hr', hrecv'⟩, hreplay'.trans hreplay, hknows'⟩, hend⟩

/-- A receiver within the capacity of the bus receives. -/
lemma SubscriptionCursor.Bound.exists_receive (h : c.Bound f) {r : ℕ} (hrecv : c.receiver = some r)
    (hfits : f.sent.length ≤ r + sessionStreamCapacity) :
    ∃ item c', c.tryNext f.sent = (.ok item, c') := by
  rw [tryNext, h.replay, hrecv]
  dsimp only
  rw [if_neg (by omega)]
  exact ⟨_, _, rfl⟩

end Bound

/-- What the stream does by itself keeps its invariant. -/
lemma GrpcStream.Flow.sound {s s' : GrpcStream} (h : s.Flow s') (hs : s.Sound) : s'.Sound := by
  obtain ⟨hv, hbound⟩ := hs
  cases h with
  | write haccess =>
    exact ⟨haccess.valid hv, fun c hc => (hbound c hc).grows (haccess.grows hv)⟩
  | receive _ hc hnext =>
    refine ⟨hv, fun c' hc' => ?_⟩
    cases hc'
    exact ((hbound _ hc).receive hnext).1

lemma GrpcStream.Sound.run {s s' : GrpcStream} (h : s.Sound)
    (hrun : Relation.ReflTransGen GrpcStream.Flow s s') : s'.Sound := by
  induction hrun with
  | refl => exact h
  | tail _ hflow ih => exact hflow.sound ih

/-- **Every step of a stream keeps its invariant.** -/
theorem GrpcStream.Step.sound {s s' : GrpcStream} (h : GrpcStream.Step s s') (hs : s.Sound) :
    s'.Sound := by
  obtain ⟨hv, hbound⟩ := hs
  cases h with
  | flow hflow => exact hflow.sound ⟨hv, hbound⟩
  | bindLive _ =>
    refine ⟨hv, fun c hc => ?_⟩
    cases hc
    exact bound_frameCursor hbound
  | authorize _ _ => exact ⟨hv, hbound⟩
  | attach _ =>
    refine ⟨hv, fun c hc => ?_⟩
    cases hc
    exact bound_frameCursor hbound
  | snapshot _ hc hread =>
    refine ⟨hv, fun c' hc' => ?_⟩
    cases hc'
    exact (hbound _ hc).snapshot hv hread

theorem GrpcStream.sound_of_reachable {f₀ : Feed} (hvalid : f₀.Valid) {s : GrpcStream}
    (h : Relation.ReflTransGen GrpcStream.Step (.opened f₀) s) : s.Sound := by
  induction h with
  | refl => exact ⟨hvalid, fun _ hc => absurd hc.symm (Option.some_ne_none _)⟩
  | tail _ hstep ih => exact hstep.sound ih

/-! ### What follows a frame -/

/-- The envelopes accepted after a position, as a replay shows them. -/
def replayedEnvelopes (history : List Accepted) (after : ℕ) : List Envelope :=
  (history.drop after).map fun a => a.env.stamped a.entry.receivedAtMs

lemma map_snd_replayed (history : List Accepted) (after : ℕ) :
    (replayed history after).map (·.2) = replayedEnvelopes history after :=
  map_snd_numberFrom _ _

/-- A stream has yielded the accepted envelopes after a position, each once and in order:
`history` was replayed, what came later was live.  Once it finds nothing more, nothing published
is missing. -/
def GrpcStream.ExactAfter (s : GrpcStream) (history : List Accepted) (after : ℕ) : Prop :=
  s.yielded <+: replayedEnvelopes history after
      ++ (s.feed.history.drop history.length).map (·.env)
    ∧ ∀ c c', s.cursor = some c → c.tryNext s.feed.sent = (.ok none, c') →
      s.feed.sent.length ≤ after + s.yielded.length

/-- The account of a stream since a subscribe frame: what it has yielded and what is still to
come, whatever is published. -/
structure GrpcStream.Account (s : GrpcStream) (history : List Accepted) (after : ℕ) : Prop where
  valid : s.feed.Valid
  history_prefix : history <+: s.feed.history
  after_le : after ≤ history.length
  account : ∃ c, s.cursor = some c ∧ ∀ bus, Publishes bus s.feed.history →
    s.yielded ++ (c.remaining bus).map (·.2)
      = replayedEnvelopes history after ++ bus.drop history.length

/-- A stream whose receiver lags has yielded the replay and yields nothing more. -/
structure GrpcStream.Stalled (s : GrpcStream) (history : List Accepted) (after : ℕ) : Prop where
  valid : s.feed.Valid
  yielded : s.yielded = replayedEnvelopes history after
  stalled : ∃ c r, s.cursor = some c ∧ c.replay = [] ∧ c.receiver = some r
    ∧ r + sessionStreamCapacity < s.feed.sent.length

section Frame

variable {s s' : GrpcStream} {history : List Accepted} {after : ℕ}

lemma GrpcStream.Account.flow (h : s.Account history after) (hflow : s.Flow s') :
    s'.Account history after := by
  obtain ⟨hv, hbefore, hafter, c, hc, hall⟩ := h
  cases hflow with
  | write haccess =>
    have hg := haccess.grows hv
    exact ⟨haccess.valid hv, hbefore.trans hg.history_prefix, hafter, c, hc,
      fun bus hbus => hall bus (hbus.of_grows hg)⟩
  | receive _ hc' hnext =>
    rw [hc] at hc'
    cases hc'
    refine ⟨hv, hbefore, hafter, _, rfl, fun bus hbus => ?_⟩
    have hhead := (tryNext_yields hnext (hv.sent_prefix.trans hbus.history_prefix)).1
    rw [List.append_assoc, ← List.map_append, ← hhead]
    exact hall bus hbus

lemma GrpcStream.Account.run (h : s.Account history after)
    (hrun : Relation.ReflTransGen GrpcStream.Flow s s') : s'.Account history after := by
  induction hrun with
  | refl => exact h
  | tail _ hflow ih => exact ih.flow hflow

lemma GrpcStream.Account.exactAfter (h : s.Account history after) : s.ExactAfter history after := by
  obtain ⟨hv, hbefore, hafter, c, hc, hall⟩ := h
  have hself : Publishes (s.feed.history.map (·.env)) s.feed.history :=
    ⟨List.prefix_refl _, by rw [List.map_map]; exact hv.distinct⟩
  have htotal := hall _ hself
  rw [← List.map_drop] at htotal
  refine ⟨⟨_, htotal⟩, fun c₁ c' hc₁ hnext => ?_⟩
  rw [hc] at hc₁
  cases hc₁
  have hleft := (tryNext_yields hnext hv.sent_prefix).2 rfl
  have hlen := congrArg List.length htotal
  have hgrown := hbefore.length_le
  simp only [replayedEnvelopes, List.length_append, List.length_map, List.length_drop]
    at hlen hleft
  omega

lemma GrpcStream.Stalled.flow (h : s.Stalled history after) (hflow : s.Flow s') :
    s'.Stalled history after := by
  obtain ⟨hv, hyielded, c, r, hc, hreplay, hrecv, hlag⟩ := h
  cases hflow with
  | write haccess =>
    have hg := haccess.grows hv
    have hgrown := hg.sent_prefix.length_le
    exact ⟨haccess.valid hv, hyielded, c, r, hc, hreplay, hrecv, hlag.trans_le hgrown⟩
  | receive _ hc' hnext =>
    rw [hc] at hc'
    cases hc'
    rw [tryNext, hreplay, hrecv] at hnext
    dsimp only at hnext
    rw [if_pos hlag] at hnext
    cases hnext

lemma GrpcStream.Stalled.run (h : s.Stalled history after)
    (hrun : Relation.ReflTransGen GrpcStream.Flow s s') : s'.Stalled history after := by
  induction hrun with
  | refl => exact h
  | tail _ hflow ih => exact ih.flow hflow

lemma GrpcStream.Stalled.exactAfter (h : s.Stalled history after) : s.ExactAfter history after := by
  obtain ⟨_, hyielded, c, r, hc, hreplay, hrecv, hlag⟩ := h
  refine ⟨?_, fun c₁ c' hc₁ hnext => ?_⟩
  · rw [hyielded]
    exact List.prefix_append _ _
  · rw [hc] at hc₁
    cases hc₁
    rw [tryNext, hreplay, hrecv] at hnext
    dsimp only at hnext
    rw [if_pos hlag] at hnext
    cases hnext

/-- The holder of the lock can publish what it has accepted before it accepts anything more. -/
lemma Critical.exists_published {f : Feed} {pending : Option Envelope}
    (hcrit : Critical f.log f.history pending f.held) :
    ∃ f', Relation.ReflTransGen Feed.Step f f' ∧ f'.history = f.history
      ∧ f'.sent = f.sent ++ pending.toList := by
  obtain ⟨history, log, sent, held⟩ := f
  dsimp only at hcrit
  induction hcrit generalizing sent with
  | done => exact ⟨_, .refl, rfl, (List.append_nil _).symm⟩
  | keep _ _ _ ih =>
    obtain ⟨f', hsteps, hrest⟩ := ih sent
    exact ⟨f', .head (.act rfl) hsteps, hrest⟩
  | accept _ _ _ _ _ => exact ⟨_, .refl, rfl, (List.append_nil _).symm⟩
  | publish _ _ => exact ⟨_, .single (.act rfl), rfl, rfl⟩

/-- Only the feed changes while the holder of the lock works. -/
lemma GrpcStream.flow_of_steps {f' : Feed} (h : Relation.ReflTransGen Feed.Step s.feed f') :
    Relation.ReflTransGen GrpcStream.Flow s { s with feed := f' } := by
  induction h with
  | refl => exact .refl
  | @tail f₁ f₂ _ hstep ih =>
    exact ih.tail (GrpcStream.Flow.write (s := { s with feed := f₁ }) hstep)

/-- A stream that has yielded the whole replay and stays exact finds nothing on its receiver. -/
lemma GrpcStream.exists_drained (hs : s.Sound) {c : SubscriptionCursor} {r : ℕ}
    (hidle : s.frame = .idle) (hc : s.cursor = some c) (hrecv : c.receiver = some r)
    (hfits : s.feed.sent.length ≤ r + sessionStreamCapacity)
    (hyielded : s.yielded = replayedEnvelopes s.feed.history after)
    (hexact : ∀ t, s.Flow t → t.ExactAfter s.feed.history after) :
    ∃ c', c.tryNext s.feed.sent = (.ok none, c') ∧ s.Flow { s with cursor := some c' } := by
  obtain ⟨item, c', hnext⟩ := (hs.bound c hc).exists_receive hrecv hfits
  have hflow : s.Flow { s with cursor := some c', yielded := s.yielded ++ item.toList.map (·.2) } :=
    .receive hidle hc hnext
  cases item with
  | none =>
    rw [Option.toList_none, List.map_nil, List.append_nil] at hflow
    exact ⟨c', hnext, hflow⟩
  | some item =>
    have hbefore := (hexact _ hflow).1.length_le
    dsimp only at hbefore
    rw [hyielded, List.drop_length, List.length_append, List.length_append] at hbefore
    simp only [Option.toList_some, List.map_cons, List.map_nil, List.length_cons,
      List.length_nil] at hbefore
    omega

/-- **A stream that stays exact after a frame has nothing more to yield of what was accepted
before it**: it can drain its receiver, wait for what is being published, and drain it again. -/
theorem GrpcStream.remaining_of_exactAfter (hs : s.Sound) {c : SubscriptionCursor} {r : ℕ}
    (hidle : s.frame = .idle) (hc : s.cursor = some c) (hrecv : c.receiver = some r)
    (hfits : s.feed.sent.length ≤ r + sessionStreamCapacity)
    (hyielded : s.yielded = replayedEnvelopes s.feed.history after)
    (hexact : ∀ t, Relation.ReflTransGen GrpcStream.Flow s t →
      t.ExactAfter s.feed.history after) :
    c.remaining (s.feed.history.map (·.env)) = [] := by
  have hv := hs.valid
  obtain ⟨c₁, hnext₁, hflow₁⟩ := exists_drained hs hidle hc hrecv hfits hyielded
    fun t ht => hexact t (.single ht)
  have hrecv₁ := ((hs.bound c hc).receive hnext₁).2 rfl
  -- what is being published
  obtain ⟨pending, hpending, hcrit⟩ := hv.holding
  obtain ⟨f', hsteps, hhistory, hsent⟩ := hcrit.exists_published
  have hpub : f'.sent.length ≤ s.feed.sent.length + sessionStreamCapacity := by
    have hone : pending.toList.length ≤ 1 := by cases pending <;> simp
    rw [hsent, List.length_append, sessionStreamCapacity]
    omega
  have hflow₂ := (Relation.ReflTransGen.single hflow₁).trans (flow_of_steps hsteps)
  obtain ⟨c₂, hnext₂, _⟩ := exists_drained (hs.run hflow₂) hidle rfl hrecv₁ hpub
    (hyielded.trans (by rw [hhistory]))
    fun t ht => hhistory ▸ hexact t (hflow₂.tail ht)
  have hleft := (tryNext_yields hnext₂ (List.prefix_refl _)).2 rfl
  dsimp only at hleft
  rw [hsent, hpending] at hleft
  rw [(tryNext_yields hnext₁ hv.sent_prefix).1]
  exact List.length_eq_zero_iff.mp (by simp only [Option.toList_none, List.nil_append]; omega)

/-- What a subscribe frame on a sound stream leaves. -/
lemma GrpcStream.Sound.served (hs : s.Sound) {c c' : SubscriptionCursor}
    (hc : s.cursor = some c) (hread : c.loadSnapshot s.feed.log after = .ok c') :
    (s.served c').Sound ∧ c'.receiver = c.receiver
      ∧ c'.replay = replayed s.feed.history after := by
  have hv := hs.valid
  have hbound := hs.bound c hc
  have hc' := loadSnapshot_eq_ok hv.views hv.recorded hread
  refine ⟨⟨hv, fun c₁ hc₁ => ?_⟩, ?_, ?_⟩
  · cases hc₁
    exact hbound.snapshot hv hread
  · rw [hc']
  · rw [hc', hbound.replay]
    rfl

end Frame

/-- **Exactly when a subscribe frame is followed by the accepted envelopes after its position,
each once and in order**: the receiver already lags, nothing buffered on it is at or before the
position, or nothing is replayed and the filter of an earlier frame knows everything buffered. -/
theorem resubscribe_exact_iff {f₀ : Feed} (hvalid : f₀.Valid) {s : GrpcStream}
    (hreach : Relation.ReflTransGen GrpcStream.Step (.opened f₀) s) {after : ℕ}
    {c c' : SubscriptionCursor} (hc : s.cursor = some c) (hafter : after ≤ s.feed.history.length)
    (hread : c.loadSnapshot s.feed.log after = .ok c') :
    (∀ t, Relation.ReflTransGen GrpcStream.Flow (s.served c') t →
        t.ExactAfter s.feed.history after)
      ↔ ∃ r, c.receiver = some r ∧ (r + sessionStreamCapacity < s.feed.sent.length
        ∨ after ≤ r
        ∨ (after = s.feed.history.length ∧ ∃ seen, c.replayDedup = some seen
          ∧ ∀ a ∈ s.feed.history.drop r, a.env.messageId ∈ seen)) := by
  have hs := GrpcStream.sound_of_reachable hvalid hreach
  have hv := hs.valid
  obtain ⟨⟨r, hr, hrecv⟩, hreplay, hknows⟩ := hs.bound c hc
  obtain ⟨hserved, hrecv', hreplay'⟩ := hs.served hc hread
  have hiff {bus : List Envelope} (hbus : Publishes bus s.feed.history) :=
    remaining_loadSnapshot_iff hv.views hv.recorded hv.distinct hknows hread hreplay hrecv
      (hr.trans hv.length_sent_le) hafter hbus
  have hsplit (bus : List Envelope) :
      c'.remaining bus = replayed s.feed.history after ++ c'.takeReplay.2.remaining bus := by
    rw [← hreplay']
    rfl
  have hyielded : (s.served c').yielded = replayedEnvelopes s.feed.history after := by
    rw [← map_snd_replayed, ← hreplay']
    rfl
  constructor
  · intro hexact
    refine ⟨r, hrecv, ?_⟩
    rcases Nat.lt_or_ge (r + sessionStreamCapacity) s.feed.sent.length with hlag | hfits
    · exact .inl hlag
    · have hself : Publishes (s.feed.history.map (·.env)) s.feed.history :=
        ⟨List.prefix_refl _, by rw [List.map_map]; exact hv.distinct⟩
      have hnil := GrpcStream.remaining_of_exactAfter hserved rfl rfl (hrecv'.trans hrecv) hfits
        hyielded hexact
      refine .inr ((hiff hself).mp ?_)
      have hlen : (s.feed.history.map (·.env)).length ≤ s.feed.history.length :=
        (List.length_map _).le
      rw [hsplit, List.drop_of_length_le hlen]
      exact congrArg _ hnil
  · rintro ⟨r', hrecv₁, hcond⟩ t ht
    rw [hrecv] at hrecv₁
    cases hrecv₁
    rcases hcond with hlag | hclean
    · have hstart : (s.served c').Stalled s.feed.history after :=
        ⟨hv, hyielded, c'.takeReplay.2, r, rfl, rfl, hrecv'.trans hrecv, hlag⟩
      exact (hstart.run ht).exactAfter
    · have hstart : (s.served c').Account s.feed.history after := by
        refine ⟨hv, List.prefix_refl _, hafter, c'.takeReplay.2, rfl, fun bus hbus => ?_⟩
        have htotal := congrArg (List.map (·.2)) ((hiff hbus).mpr hclean)
        rw [hsplit] at htotal
        simp only [List.map_append, map_snd_replayed, map_snd_numberFrom] at htotal
        rw [hyielded]
        exact htotal
      exact (hstart.run ht).exactAfter

/-! ### A bound stream -/

/-- A stream that was bound after the first of three messages, at a subscribe frame. -/
def boundStream (after : ℕ) : GrpcStream :=
  ⟨feedOf 5 ["m1", "m2", "m3"], .attached after, some (.new 1), []⟩

lemma boundStream_reached (after : ℕ) :
    Relation.ReflTransGen GrpcStream.Step (.opened (feedOf 5 ["m1"])) (boundStream after) :=
  .tail (.tail (.tail (.tail (.tail (.tail (.tail (.single (.bindLive rfl))
    (.flow (.write feedOf_lock))) (.flow (.write (.act rfl)))) (.flow (.write (.act rfl))))
    (.flow (.write (.act rfl)))) (.flow (.write (.act rfl)))) (.authorize rfl rfl)) (.attach rfl)

theorem resubscribe_exact_sample :
    ∃ c', (SubscriptionCursor.new 1).loadSnapshot (boundStream 1).feed.log 1 = .ok c'
      ∧ ∀ t, Relation.ReflTransGen GrpcStream.Flow ((boundStream 1).served c') t →
        t.ExactAfter (boundStream 1).feed.history 1 :=
  ⟨_, rfl, (resubscribe_exact_iff (feedOf_valid 5) (boundStream_reached 1) rfl (by decide) rfl).mpr
    ⟨1, rfl, .inr (.inl le_rfl)⟩⟩

/-- **A frame may repeat an envelope**: a stream that a run reaches holds the second and the third
message on its receiver, asks for what comes after the second, and is given the third, the second,
and the third again. -/
theorem resubscribe_repeats :
    (feedOf 5 ["m1"]).Valid
      ∧ Relation.ReflTransGen GrpcStream.Step (.opened (feedOf 5 ["m1"])) (boundStream 2)
      ∧ ∃ c' t, (SubscriptionCursor.new 1).loadSnapshot (boundStream 2).feed.log 2 = .ok c'
      ∧ Relation.ReflTransGen GrpcStream.Flow ((boundStream 2).served c') t
      ∧ t.yielded.map (·.messageId) = ["m3", "m2", "m3"]
      ∧ ¬ t.ExactAfter (boundStream 2).feed.history 2 := by
  refine ⟨feedOf_valid 5, boundStream_reached 2, _, _, rfl,
    .tail (.single (.receive rfl rfl rfl)) (.receive rfl rfl rfl), rfl, ?_⟩
  rintro ⟨hyields, _⟩
  exact absurd hyields.length_le (by decide)

end MacpRuntime
