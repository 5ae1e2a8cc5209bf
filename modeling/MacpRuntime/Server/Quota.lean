import MacpRuntime.Server.Wire

/-!
The open-session quota, which a start checks under the lock of the registry (`src/runtime.rs`).  A
locked session is counted without a look into it: **the answer depends on the initiator's own
sessions exactly if no other is locked** (`quota_isolated_iff`).
-/

namespace MacpRuntime

/-- A session of the registry, and whether its lock is held. -/
structure Registered where
  session : Session
  locked : Bool

section Quota

variable (sender : String) (nowMs : Int64) (registry : List Registered)

/-- Whether the check counts a session. -/
def Registered.counts (e : Registered) : Bool :=
  e.locked || (e.session.initiatorSender == sender && e.session.state == .Open
    && decide (nowMs ≤ e.session.ttlExpiry))

/-- The sessions that count against a sender's quota. -/
def countOpenSessionsForInitiator : ℕ := registry.countP (Registered.counts sender nowMs)

/-- The initiator's own sessions. -/
def ownSessions : List Registered := registry.filter (·.session.initiatorSender == sender)

/-- **Isolation of the quota.**  Under every limit a start is answered as if there were no sessions
but its initiator's, exactly if no session of another initiator is locked. -/
theorem quota_isolated_iff :
    (∀ limit, rateLimited limit (countOpenSessionsForInitiator sender nowMs registry)
        = rateLimited limit
          (countOpenSessionsForInitiator sender nowMs (ownSessions sender registry)))
      ↔ ∀ e ∈ registry, e.session.initiatorSender ≠ sender → e.locked = false := by
  have hsplit := List.countP_eq_countP_filter_add registry (Registered.counts sender nowMs)
    (·.session.initiatorSender == sender)
  constructor
  · intro h e he hne
    have hle := h (some (countOpenSessionsForInitiator sender nowMs registry))
    simp only [rateLimited, Option.any_some, le_refl, decide_true, true_eq_decide_iff] at hle
    have hzero := List.countP_eq_zero.mp (Nat.le_zero.mp (Nat.le_of_add_le_add_left
      (hsplit.symm.le.trans hle))) e (List.mem_filter.mpr ⟨he, by simpa using hne⟩)
    simpa [Registered.counts, hne] using hzero
  · intro h limit
    refine congrArg (rateLimited limit) (hsplit.trans (Nat.add_eq_left.mpr ?_))
    refine List.countP_eq_zero.mpr fun e he => ?_
    obtain ⟨hmem, hne⟩ := List.mem_filter.mp he
    have hne' : e.session.initiatorSender ≠ sender := by simpa using hne
    simp [Registered.counts, hne', h e hmem hne']

end Quota

/-- The answer to the sample start beside a session of another initiator. -/
def besideForeign (locked : Bool) : Except MacpError ProcessResult :=
  let foreign := { Handoff.sampleSession 5 with initiatorSender := "z" }
  (processSessionStart sampleRuntime (Handoff.sampleStart []) (some 1)
    (countOpenSessionsForInitiator (Handoff.sampleStart []).sender 5 [⟨foreign, locked⟩])
    (.initial (.const 5) (.const 0) (.const true))).2

/-- **A request of another initiator refuses a start**: the same registry answers differently while
its one session is locked. -/
theorem foreign_lock_refuses_start :
    besideForeign true = .error .RateLimited ∧ besideForeign false = .ok ⟨.Open, false⟩ :=
  ⟨rfl, rfl⟩

end MacpRuntime
