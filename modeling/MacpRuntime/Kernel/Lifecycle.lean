import MacpRuntime.Kernel.Replay
import MacpRuntime.Kernel.Run
import MacpRuntime.Modes.Passthrough

/-!
The lifecycle of a session over whole runs of the library kernel: in every reachable state the two
optional fields agree with the lifecycle state, and terminal states are frozen
(`lifecycle_invariants`).  The one delicate move is the commit: synthesis runs between the open gate
and the dispatch, so the session a message is committed to is open or already resolved, but never
suspended (`advance_open_or_resolved`).
-/

namespace MacpRuntime

variable {mode : Mode}

/-- **Lifecycle coherence**: a pause is in progress exactly while suspended, and there is a
resolution exactly when resolved. -/
structure Session.Coherent (s : Session) : Prop where
  suspended_iff : s.suspendedAtMs.isSome = true ↔ s.state = .Suspended
  resolved_iff : s.resolution.isSome = true ↔ s.state = .Resolved

/-- An open session with neither a pause nor a resolution is coherent. -/
lemma Session.Coherent.of_open {s : Session} (hopen : s.state = .Open)
    (hsusp : s.suspendedAtMs = none) (hres : s.resolution = none) : s.Coherent :=
  ⟨by simp [hopen, hsusp], by simp [hopen, hres]⟩

/-- Applying a response to a coherent session that is not suspended keeps it coherent. -/
lemma Session.Coherent.applyModeResponse {s : Session} (h : s.Coherent)
    (hns : s.state ≠ .Suspended) (r : ModeResponse) : (s.applyModeResponse r).Coherent := by
  have hnone : s.suspendedAtMs.isSome ≠ true := fun hs => hns (h.suspended_iff.mp hs)
  rcases s.applyModeResponse_state r with ⟨hst, hres⟩ | ⟨hst, hres⟩
  · refine ⟨?_, ?_⟩
    · rw [s.applyModeResponse_suspendedAtMs, hst]
      exact h.suspended_iff
    · rw [hst, hres]
      exact h.resolved_iff
  · refine ⟨?_, ?_⟩
    · rw [s.applyModeResponse_suspendedAtMs, hst]
      exact ⟨fun hs => absurd hs hnone, fun hs => by cases hs⟩
    · exact ⟨fun _ => hst, fun _ => hres⟩

/-- Emission from an open session leaves it open or resolves it. -/
lemma advance_open_or_resolved (mode : Mode) {s : Session} (hopen : s.state = .Open)
    (nowMs : Int64) :
    (advance s mode nowMs).1.state = .Open ∨ (advance s mode nowMs).1.state = .Resolved := by
  refine advanceLoop_invariant (P := fun s => s.state = .Open ∨ s.state = .Resolved)
    (fun s syn _ hsyn => ?_) maxSyntheticPerStep (.inl hopen)
  have hs := (nextSynthetic_eq_some hsyn).1
  rcases Session.applyModeResponse_state
      { s with seenMessageIds := s.seenMessageIds.insert syn.envelope.messageId } syn.response
    with ⟨hst, _⟩ | ⟨hst, _⟩
  · exact .inl (hst.trans hs)
  · exact .inr hst

/-- Resuming leaves no pause in progress, and opens or expires the session. -/
lemma Session.resume_state {s : Session} (hsusp : s.state = .Suspended) (nowMs : Int64) :
    (s.resume nowMs).1.suspendedAtMs = none
      ∧ (s.resume nowMs).1.resolution = s.resolution
      ∧ ((s.resume nowMs).1.state = .Open ∨ (s.resume nowMs).1.state = .Expired) := by
  rw [Session.resume, if_neg (not_not.mpr hsusp)]
  dsimp only
  split_ifs
  · exact ⟨rfl, rfl, .inr rfl⟩
  · exact ⟨rfl, rfl, .inr rfl⟩
  · exact ⟨rfl, rfl, .inl rfl⟩

/-- Every move keeps a session coherent. -/
lemma Move.coherent {op : Op} {s s' : Session} (hm : Move mode op s s')
    (h : s.Coherent) : s'.Coherent := by
  cases hm with
  | @synthetic _ _ syn _ _ hsyn =>
    have hopen := (nextSynthetic_eq_some hsyn).1
    have h' : Session.Coherent
        { s with seenMessageIds := s.seenMessageIds.insert syn.envelope.messageId } :=
      ⟨h.suspended_iff, h.resolved_iff⟩
    exact h'.applyModeResponse (by rw [hopen]; decide) _
  | @commit s₀ _ env _ nowMs hpre _ hadv _ =>
    have hst := advance_open_or_resolved mode (checkPreconditions_eq_proceed hpre).2.2.2 nowMs
    rw [hadv] at hst
    have h' : Session.Coherent
        (Session.recordParticipantActivity
          { s with seenMessageIds := s.seenMessageIds.insert env.messageId } env.sender nowMs) :=
      ⟨h.suspended_iff, h.resolved_iff⟩
    refine h'.applyModeResponse (fun hs => ?_) _
    rcases hst with hst | hst
    · cases hst.symm.trans hs
    · cases hst.symm.trans hs
  | suspend hopen =>
    have hnres : s.resolution.isSome ≠ true := fun hr => by
      cases hopen.symm.trans (h.resolved_iff.mp hr)
    exact ⟨⟨fun _ => rfl, fun _ => rfl⟩, ⟨fun hr => absurd hr hnres, fun hr => by cases hr⟩⟩
  | resume hsusp =>
    have hnres : s.resolution.isSome ≠ true := fun hr => by
      cases hsusp.symm.trans (h.resolved_iff.mp hr)
    obtain ⟨hnone, hres, hst⟩ := Session.resume_state hsusp _
    refine ⟨?_, ?_⟩
    · rw [hnone]
      rcases hst with hst | hst <;> simp [hst]
    · rw [hres]
      rcases hst with hst | hst <;> simpa [hst] using hnres
  | cancel hlive =>
    have hnres : s.resolution.isSome ≠ true := fun hr => by
      rw [h.resolved_iff.mp hr] at hlive
      cases hlive
    exact ⟨⟨fun hs => (by cases hs), fun hs => by cases hs⟩,
      ⟨fun hr => absurd hr hnres, fun hr => by cases hr⟩⟩
  | expire hlive =>
    have hnres : s.resolution.isSome ≠ true := fun hr => by
      rw [h.resolved_iff.mp hr] at hlive
      cases hlive
    exact ⟨⟨fun hs => (by cases hs), fun hs => by cases hs⟩,
      ⟨fun hr => absurd hr hnres, fun hr => by cases hr⟩⟩

/-- However it began, a session begins coherent. -/
lemma SessionBegun.coherent {prost : Prost} {s : Session} (h : SessionBegun prost mode s) :
    s.Coherent := by
  obtain ⟨bound, env, response, hb, _, rfl⟩ := h.exists_start
  have hcoh : Session.Coherent { bound with
      seenMessageIds := (∅ : Std.ExtTreeSet String).insert env.messageId } :=
    .of_open hb.open_state hb.suspendedAt hb.resolution
  exact hcoh.applyModeResponse (by simp [hb.open_state]) _

/-- **Lifecycle invariants**: in every state a run reaches from an accepted start, the
optional fields agree with the lifecycle state, and from a terminal state no further
calls change the lifecycle, the mode state, the deadline or the suspension accounting. -/
theorem lifecycle_invariants {prost : Prost} {env : Envelope} {nowMs : Int64}
    {policy : Option PolicyDefinition} {opts : StartOptions} {s : Session}
    (hstart : acceptSessionStart prost env nowMs mode policy opts = .ok s) (ops : List Op) :
    ((run mode s ops).suspendedAtMs.isSome = true ↔ (run mode s ops).state = .Suspended)
      ∧ ((run mode s ops).resolution.isSome = true ↔ (run mode s ops).state = .Resolved)
      ∧ ((run mode s ops).state.isTerminal = true → ∀ later : List Op,
          (run mode s (ops ++ later)).state = (run mode s ops).state
            ∧ (run mode s (ops ++ later)).modeState = (run mode s ops).modeState
            ∧ (run mode s (ops ++ later)).resolution = (run mode s ops).resolution
            ∧ (run mode s (ops ++ later)).ttlExpiry = (run mode s ops).ttlExpiry
            ∧ (run mode s (ops ++ later)).suspendedAtMs = (run mode s ops).suspendedAtMs
            ∧ (run mode s (ops ++ later)).accumulatedSuspendedMs
                = (run mode s ops).accumulatedSuspendedMs
            ∧ (run mode s (ops ++ later)).suspensionIntervals
                = (run mode s ops).suspensionIntervals) := by
  have hcoh : (run mode s ops).Coherent :=
    run_invariant (fun _ _ _ _ hm => hm.coherent) (SessionBegun.accepted hstart).coherent
  refine ⟨hcoh.suspended_iff, hcoh.resolved_iff, fun hterm later => ?_⟩
  rw [run_append, run_of_terminal hterm]
  exact ⟨rfl, rfl, rfl, rfl, rfl, rfl, rfl⟩

theorem lifecycle_invariants_sample :
    acceptSessionStart protobuf Passthrough.sampleStart 5 (Passthrough.mode protobuf []) none {}
        = .ok Passthrough.sampleSession
      ∧ ((run (Passthrough.mode protobuf []) Passthrough.sampleSession
            [.suspend 7]).suspendedAtMs.isSome = true
          ↔ (run (Passthrough.mode protobuf []) Passthrough.sampleSession
            [.suspend 7]).state = .Suspended) :=
  ⟨Passthrough.sampleStart_accepted,
    (lifecycle_invariants Passthrough.sampleStart_accepted [.suspend 7]).1⟩

end MacpRuntime
