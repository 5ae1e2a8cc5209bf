import MacpRuntime.Core.Session
import MacpRuntime.Lib.SlidingWindow

/-!
The rate limits of the security layer (`macp-auth/src/security.rs`), one sliding window for each
sender and kind of request.  Calls read the clock and then wait for the lock, in any interleaving.

* `Limiter.Orderly`: the calls of a kind take the lock in the order of their readings;
* `rate_limit_holds`: **in every run whose events are orderly no window holds more accepted requests
  of a sender and kind than the limit**;
* `late_reading_exceeds`: a call that is overtaken between its reading and the lock.
-/

namespace MacpRuntime

open Std

/-! ### One request -/

/-- A limit on the requests in a window; times are those of the monotonic clock. -/
structure RateLimitConfig where
  limit : ℕ
  window : ℕ

/-- The accepted times of each sender, oldest first, and the number of requests so far. -/
structure RateBucket where
  events : ExtTreeMap String (List ℕ)
  sweepCounter : ℕ

namespace RateBucket

/-- How often the bucket is swept. -/
def sweepEvery : ℕ := 128

/-- The recorded calls of a sender. -/
def queue (bucket : RateBucket) (sender : String) : List ℕ := bucket.events[sender]?.getD []

/-- Drop the senders whose last request is out of the window. -/
def sweep (config : RateLimitConfig) (bucket : RateBucket) (now : ℕ) : RateBucket :=
  { bucket with
    events := bucket.events.filter fun _ deque =>
      deque.getLast?.any fun last => now - last ≤ config.window }

/-- A request under the lock, with the clock reading it made before. -/
def checkBucket (config : RateLimitConfig) (bucket : RateBucket) (sender : String) (now : ℕ) :
    RateBucket × Except MacpError Unit :=
  let tick := bucket.sweepCounter
  let bucket := { bucket with sweepCounter := tick + 1 }
  let bucket := if tick % sweepEvery = 0 then bucket.sweep config now else bucket
  let deque := (bucket.queue sender).dropWhile fun instant => config.window < now - instant
  if config.limit ≤ deque.length then
    ({ bucket with events := bucket.events.insert sender deque }, .error .RateLimited)
  else ({ bucket with events := bucket.events.insert sender (deque ++ [now]) }, .ok ())

end RateBucket

/-! ### Concurrent calls -/

/-- A call of `enforce_rate_limit` that has read the clock. -/
structure RateCall where
  sender : String
  isSessionStart : Bool
  reading : ℕ
  deriving DecidableEq

/-- The limits of the two kinds of requests. -/
structure Rates where
  sessionStart : RateLimitConfig
  message : RateLimitConfig

/-- The limit that a call is under. -/
def Rates.of (rates : Rates) (isSessionStart : Bool) : RateLimitConfig :=
  if isSessionStart then rates.sessionStart else rates.message

/-- The limiter: the clock, the calls between their reading and the lock, the two buckets, and the
calls that had the lock, with whether they were accepted. -/
structure Limiter where
  clock : ℕ
  waiting : List RateCall
  startEvents : RateBucket
  messageEvents : RateBucket
  served : List (RateCall × Bool)

namespace Limiter

/-- Nothing has been requested; the counters may be anywhere in their cycle. -/
def initial (clock startTick messageTick : ℕ) : Limiter :=
  ⟨clock, [], ⟨∅, startTick⟩, ⟨∅, messageTick⟩, []⟩

/-- The bucket that a call is counted in. -/
def bucket (l : Limiter) (isSessionStart : Bool) : RateBucket :=
  if isSessionStart then l.startEvents else l.messageEvents

/-- The critical section of a call. -/
def serve (rates : Rates) (l : Limiter) (call : RateCall) : Limiter :=
  let r := RateBucket.checkBucket (rates.of call.isSessionStart) (l.bucket call.isSessionStart)
    call.sender call.reading
  { l with
    waiting := l.waiting.erase call
    startEvents := if call.isSessionStart then r.1 else l.startEvents
    messageEvents := if call.isSessionStart then l.messageEvents else r.1
    served := l.served ++ [(call, r.2.isOk)] }

end Limiter

/-- What can happen: time passes, a call reads the clock, a waiting call gets the lock. -/
inductive RateEvent where
  | advance (elapsed : ℕ)
  | read (sender : String) (isSessionStart : Bool)
  | lock (call : RateCall)

namespace Limiter

/-- The limiter after an event. -/
def step (rates : Rates) (l : Limiter) : RateEvent → Limiter
  | .advance elapsed => { l with clock := l.clock + elapsed }
  | .read sender isSessionStart =>
    { l with waiting := ⟨sender, isSessionStart, l.clock⟩ :: l.waiting }
  | .lock call => if call ∈ l.waiting then l.serve rates call else l

/-- The limiter after some events. -/
def run (rates : Rates) (l : Limiter) (events : List RateEvent) : Limiter :=
  events.foldl (step rates) l

/-- The readings of the accepted requests of a sender and kind. -/
def accepted (l : Limiter) (sender : String) (isSessionStart : Bool) : List ℕ :=
  (l.served.filter fun e => e.2 && e.1.sender == sender
    && e.1.isSessionStart == isSessionStart).map fun e => e.1.reading

/-- The events of a run are orderly: a call that gets the lock has read the clock no earlier than
the calls of its kind that had it before. -/
def Orderly (rates : Rates) : Limiter → List RateEvent → Prop
  | _, [] => True
  | l, event :: events =>
    (∀ call, event = .lock call → ∀ e ∈ l.served,
      e.1.isSessionStart = call.isSessionStart → e.1.reading ≤ call.reading)
    ∧ Orderly rates (l.step rates event) events

instance Orderly.decidable (rates : Rates) :
    (l : Limiter) → (events : List RateEvent) → Decidable (Orderly rates l events)
  | _, [] => .isTrue trivial
  | l, event :: events =>
    have := Orderly.decidable rates (l.step rates event) events
    have : Decidable (∀ call, event = .lock call → ∀ e ∈ l.served,
        e.1.isSessionStart = call.isSessionStart → e.1.reading ≤ call.reading) :=
      match event with
      | .lock call =>
        decidable_of_iff (∀ e ∈ l.served, e.1.isSessionStart = call.isSessionStart →
            e.1.reading ≤ call.reading)
          ⟨fun h _ heq => RateEvent.lock.inj heq ▸ h, fun h => h call rfl⟩
      | .advance _ => .isTrue fun _ heq => RateEvent.noConfusion heq
      | .read _ _ => .isTrue fun _ heq => RateEvent.noConfusion heq
    inferInstanceAs (Decidable (_ ∧ _))

end Limiter

/-! ### One request keeps track -/

namespace RateBucket

open SlidingWindow

variable {config : RateLimitConfig} {bucket : RateBucket} {now : ℕ} {times : String → List ℕ}

lemma queue_insert (bucket : RateBucket) (sender other : String) (deque : List ℕ) :
    ({ bucket with events := bucket.events.insert sender deque } : RateBucket).queue other
      = if other = sender then deque else bucket.queue other := by
  unfold queue
  rw [ExtTreeMap.getElem?_insert]
  by_cases hother : other = sender
  · rw [if_pos hother, if_pos (Std.compare_eq_iff_eq.mpr hother.symm), Option.getD_some]
  · rw [if_neg hother, if_neg fun heq => hother (Std.compare_eq_iff_eq.mp heq).symm]

section

variable (h : ∀ sender, Tracks config.window config.limit now (times sender) (bucket.queue sender))

include h

/-- The sweep drops queues in which nothing counts any more. -/
lemma sweep_tracks (sender : String) :
    Tracks config.window config.limit now (times sender)
      ((bucket.sweep config now).queue sender) := by
  have hsender := h sender
  unfold sweep queue at *
  rw [ExtTreeMap.getElem?_filter']
  cases hdeque : bucket.events[sender]? with
  | none =>
    rw [hdeque] at hsender
    exact hsender
  | some deque =>
    rw [hdeque] at hsender
    rw [Option.filter_some]
    split_ifs with hkeep
    · exact hsender
    · refine hsender.clear fun x hx => ?_
      rw [Option.getD_some] at hx
      rw [Option.mem_def.mp hx, Option.any_some, decide_eq_true_eq] at hkeep
      omega

/-- **A request keeps track of the accepted ones.** -/
theorem checkBucket_tracks (sender other : String) :
    Tracks config.window config.limit now
      (times other ++ if other = sender ∧ (checkBucket config bucket sender now).2.isOk = true
        then [now] else [])
      ((checkBucket config bucket sender now).1.queue other) := by
  set swept : RateBucket :=
    if bucket.sweepCounter % sweepEvery = 0 then
      ({ bucket with sweepCounter := bucket.sweepCounter + 1 } : RateBucket).sweep config now
    else { bucket with sweepCounter := bucket.sweepCounter + 1 } with hswept
  have htracks : ∀ sender, Tracks config.window config.limit now (times sender)
      (swept.queue sender) := by
    intro sender
    rw [hswept]
    split_ifs
    · exact sweep_tracks h sender
    · exact h sender
  have heq : checkBucket config bucket sender now
      = (let deque := (swept.queue sender).dropWhile fun instant => config.window < now - instant
        if config.limit ≤ deque.length then
          ({ swept with events := swept.events.insert sender deque }, .error .RateLimited)
        else ({ swept with events := swept.events.insert sender (deque ++ [now]) }, .ok ())) := rfl
  have hpruned := (htracks sender).prune
  rw [heq]
  dsimp only
  split_ifs with hfull hother hother
  · cases hother.2
  · rw [queue_insert, List.append_nil]
    split_ifs with hsame
    · rw [hsame]
      exact hpruned
    · exact htracks other
  · rw [queue_insert, if_pos hother.1, hother.1]
    exact hpruned.push (by omega)
  · rw [queue_insert, if_neg fun hsame => hother ⟨hsame, rfl⟩, List.append_nil]
    exact htracks other

end

end RateBucket

/-! ### Runs -/

namespace Limiter

open SlidingWindow

variable {rates : Rates}

/-- From the latest reading on, every queue keeps track of the accepted requests. -/
def Tracked (rates : Rates) (l : Limiter) : Prop :=
  ∀ isSessionStart now,
    (∀ e ∈ l.served, e.1.isSessionStart = isSessionStart → e.1.reading ≤ now) →
    ∀ sender, Tracks (rates.of isSessionStart).window (rates.of isSessionStart).limit now
      (l.accepted sender isSessionStart) ((l.bucket isSessionStart).queue sender)

lemma tracked_initial (clock startTick messageTick : ℕ) :
    Tracked rates (initial clock startTick messageTick) := by
  intro isSessionStart now _ sender
  have hqueue :
      ((initial clock startTick messageTick).bucket isSessionStart).queue sender = [] := by
    unfold bucket initial RateBucket.queue
    split_ifs <;> rw [ExtTreeMap.getElem?_empty, Option.getD_none]
  rw [hqueue]
  exact .nil

lemma accepted_serve (l : Limiter) (call : RateCall) (sender : String) (isSessionStart : Bool) :
    (l.serve rates call).accepted sender isSessionStart = l.accepted sender isSessionStart
      ++ if call.isSessionStart = isSessionStart ∧ sender = call.sender
          ∧ (RateBucket.checkBucket (rates.of call.isSessionStart) (l.bucket call.isSessionStart)
            call.sender call.reading).2.isOk = true
        then [call.reading] else [] := by
  unfold accepted serve
  dsimp only
  rw [List.filter_append, List.map_append, List.filter_singleton, Bool.cond_eq_ite]
  congr 1
  split_ifs with h₁ h₂ h₂
  · rfl
  · simp only [Bool.and_eq_true, beq_iff_eq] at h₁
    exact absurd ⟨h₁.2, h₁.1.2.symm, h₁.1.1⟩ h₂
  · simp only [Bool.and_eq_true, beq_iff_eq] at h₁
    exact absurd ⟨⟨h₂.2.2, h₂.2.1.symm⟩, h₂.1⟩ h₁
  · rfl

lemma bucket_serve (l : Limiter) (call : RateCall) (isSessionStart : Bool) :
    (l.serve rates call).bucket isSessionStart
      = if call.isSessionStart = isSessionStart then
          (RateBucket.checkBucket (rates.of call.isSessionStart) (l.bucket call.isSessionStart)
            call.sender call.reading).1
        else l.bucket isSessionStart := by
  unfold serve bucket
  dsimp only
  cases call.isSessionStart <;> cases isSessionStart <;> rfl

/-- A call that gets the lock in order keeps track. -/
lemma Tracked.serve {l : Limiter} (h : Tracked rates l) {call : RateCall}
    (horder : ∀ e ∈ l.served, e.1.isSessionStart = call.isSessionStart →
      e.1.reading ≤ call.reading) : Tracked rates (l.serve rates call) := by
  intro isSessionStart now hnow sender
  have hserved : ∀ e ∈ l.served, e ∈ (l.serve rates call).served := fun e he =>
    List.mem_append_left _ he
  rw [accepted_serve, bucket_serve]
  by_cases hkind : call.isSessionStart = isSessionStart
  · subst hkind
    have hle : call.reading ≤ now := hnow (call, _) (List.mem_append_right _ List.mem_cons_self) rfl
    have hstep := RateBucket.checkBucket_tracks (h call.isSessionStart call.reading horder)
      call.sender sender
    rw [if_pos rfl]
    simp only [true_and]
    exact hstep.mono hle
  · rw [if_neg hkind, if_neg fun hcase => hkind hcase.1, List.append_nil]
    exact h isSessionStart now (fun e he => hnow e (hserved e he)) sender

lemma Tracked.run {l : Limiter} (h : Tracked rates l) {events : List RateEvent}
    (horderly : Orderly rates l events) : Tracked rates (l.run rates events) := by
  induction events generalizing l with
  | nil => exact h
  | cons event events ih =>
    refine ih ?_ horderly.2
    cases event with
    | advance elapsed => exact h
    | read sender isSessionStart => exact h
    | lock call =>
      unfold step
      dsimp only
      split_ifs
      · exact h.serve (horderly.1 call rfl)
      · exact h

/-- **The rate limit holds in every run in which the calls of a kind take the lock in the order of
their readings.** -/
theorem rate_limit_holds {clock startTick messageTick : ℕ} {events : List RateEvent}
    (horderly : Orderly rates (initial clock startTick messageTick) events) (sender : String)
    (isSessionStart : Bool) (t : ℕ) :
    count (rates.of isSessionStart).window t
      (((initial clock startTick messageTick).run rates events).accepted sender isSessionStart)
      ≤ (rates.of isSessionStart).limit := by
  set l := (initial clock startTick messageTick).run rates events
  obtain ⟨now, hnow⟩ : ∃ now, ∀ e ∈ l.served, e.1.reading ≤ now :=
    ⟨(l.served.map fun e => e.1.reading).sum, fun e he =>
      List.le_sum_of_mem (List.mem_map_of_mem he)⟩
  exact ((tracked_initial clock startTick messageTick).run horderly isSessionStart now
    (fun e he _ => hnow e he) sender).bounded t

/-! ### An overtaken call -/

/-- Two requests of each kind in any ten units of time. -/
def sampleRates : Rates := ⟨⟨2, 10⟩, ⟨2, 10⟩⟩

/-- A message of `a`. -/
def sampleCall (reading : ℕ) : RateCall := ⟨"a", false, reading⟩

/-- Two requests at time 0; then one call reads 10, another reads 11 and gets the lock first. -/
def overtaken : List RateEvent :=
  [.read "a" false, .read "a" false, .lock (sampleCall 0), .lock (sampleCall 0), .advance 10,
    .read "a" false, .advance 1, .read "a" false, .lock (sampleCall 11), .lock (sampleCall 10)]

/-- All four requests are accepted, three of them within ten units. -/
theorem late_reading_exceeds :
    ((initial 0 0 0).run sampleRates overtaken).accepted "a" false = [0, 0, 11, 10]
      ∧ (sampleRates.of false).limit
        < count (sampleRates.of false).window 0
          (((initial 0 0 0).run sampleRates overtaken).accepted "a" false) := by
  have haccepted : ((initial 0 0 0).run sampleRates overtaken).accepted "a" false
      = [0, 0, 11, 10] := by
    rfl
  refine ⟨haccepted, ?_⟩
  rw [haccepted]
  decide

/-- Requests of `a` at 0, 5, 5 and 11 and one of `b` at 0, each served before the next is read. -/
def inOrder : List RateEvent :=
  [.read "a" false, .lock (sampleCall 0), .read "b" false, .lock ⟨"b", false, 0⟩, .advance 5,
    .read "a" false, .lock (sampleCall 5), .read "a" false, .lock (sampleCall 5), .advance 6,
    .read "a" false, .lock (sampleCall 11)]

/-- The third request within ten units is refused, and the one after them accepted again. -/
theorem rate_limit_holds_sample :
    ((initial 0 0 0).run sampleRates inOrder).served.map (·.2) = [true, true, true, false, true]
      ∧ ((initial 0 0 0).run sampleRates inOrder).accepted "a" false = [0, 5, 11]
      ∧ ∀ t, count 10 t (((initial 0 0 0).run sampleRates inOrder).accepted "a" false) ≤ 2 := by
  have horderly : Orderly sampleRates (initial 0 0 0) inOrder := by decide +kernel
  exact ⟨rfl, rfl, rate_limit_holds horderly "a" false⟩

end Limiter

end MacpRuntime
