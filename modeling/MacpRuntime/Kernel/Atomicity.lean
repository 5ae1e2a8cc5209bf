import MacpRuntime.Kernel.Run
import MacpRuntime.Modes.Passthrough

/-!
Rejection atomicity and at-most-once acceptance of `step`, for any mode.

* `acceptedIds_nodup`: over any sequence of calls each id is accepted by at most one;
* `step_rejected_frame`, `step_rejected_slot`: the session a rejected call leaves, and the slots it
  takes;
* `step_atomicity`: **the whole contract of a step**, for any mode and any session.
-/

namespace MacpRuntime

open Std

variable {mode : Mode}

/-! ### Dedup slots -/

lemma commit_seenMessageIds (s : Session) (env : Envelope) (r : ModeResponse) (nowMs : Int64) :
    (commit s env r nowMs).1.seenMessageIds = s.seenMessageIds.insert env.messageId :=
  Session.applyModeResponse_seenMessageIds _ r

lemma commitSynthetic_seenMessageIds (s : Session) (syn : Synthetic) :
    (commitSynthetic s syn).1.seenMessageIds
      = s.seenMessageIds.insert syn.envelope.messageId :=
  Session.applyModeResponse_seenMessageIds _ syn.response

lemma Session.resume_seenMessageIds (s : Session) (nowMs : Int64) :
    (s.resume nowMs).1.seenMessageIds = s.seenMessageIds := by
  rw [Session.resume]
  dsimp only
  split_ifs <;> rfl

variable {s : Session} {env : Envelope} {nowMs : Int64}

/-- A slot once taken stays taken. -/
lemma Move.seen_mono {op : Op} {s' : Session} (hm : Move mode op s s') {id : String}
    (h : id ∈ s.seenMessageIds) : id ∈ s'.seenMessageIds := by
  cases hm with
  | synthetic _ _ =>
    rw [commitSynthetic_seenMessageIds]
    exact ExtTreeSet.mem_insert.mpr (.inr h)
  | commit _ _ _ _ =>
    rw [commit_seenMessageIds]
    exact ExtTreeSet.mem_insert.mpr (.inr h)
  | resume _ => rwa [Session.resume_seenMessageIds]
  | suspend _ => exact h
  | cancel _ => exact h
  | expire _ => exact h

/-- The slots of an emission loop are the old ones and those of what it emitted. -/
lemma advanceLoop_seen (nowMs : Int64) (budget : ℕ) (s : Session) (id : String) :
    id ∈ (advanceLoop mode nowMs budget s).1.seenMessageIds
      ↔ id ∈ s.seenMessageIds
        ∨ ∃ e ∈ (advanceLoop mode nowMs budget s).2.1, e.messageId = id := by
  induction budget generalizing s with
  | zero =>
    rcases hn : nextSynthetic s mode nowMs with e | _ | syn
    · rw [advanceLoop_of_error hn]; simp
    · rw [advanceLoop_of_none hn]; simp
    · rw [advanceLoop_zero hn]; simp
  | succ n ih =>
    rcases hn : nextSynthetic s mode nowMs with e | _ | syn
    · rw [advanceLoop_of_error hn]; simp
    · rw [advanceLoop_of_none hn]; simp
    · rw [advanceLoop_succ hn, ih, commitSynthetic_seenMessageIds, ExtTreeSet.mem_insert,
        Std.compare_eq_iff_eq]
      simp only [List.mem_cons, exists_eq_or_imp]
      tauto

/-! ### At most once -/

/-- A sequence of step calls. -/
abbrev Calls := List (Envelope × Int64)

/-- The ids of the calls that were accepted, in order. -/
def acceptedIds (mode : Mode) : Session → Calls → List String
  | _, [] => []
  | s, (env, nowMs) :: calls =>
    let r := step s env mode nowMs
    match r.2 with
    | .ok (.Accepted _ _) => env.messageId :: acceptedIds mode r.1 calls
    | _ => acceptedIds mode r.1 calls

/-- Accepting a message takes a slot that was free. -/
lemma step_accepted_slot {st : SessionState} {emitted : List Envelope}
    (h : (step s env mode nowMs).2 = .ok (.Accepted st emitted)) :
    env.messageId ∉ s.seenMessageIds
      ∧ env.messageId ∈ (step s env mode nowMs).1.seenMessageIds := by
  have hcase := step_cases mode s env nowMs
  generalize step s env mode nowMs = r at hcase h ⊢
  cases hcase with
  | accepted hpre _ _ _ =>
    refine ⟨(checkPreconditions_eq_proceed hpre).2.1, ?_⟩
    rw [commit_seenMessageIds]
    exact ExtTreeSet.mem_insert_self
  | _ => cases h

lemma size_le_of_subset {a b : ExtTreeSet String} (h : ∀ id ∈ a, id ∈ b) : a.size ≤ b.size := by
  have hnodup : a.toList.Nodup := by
    refine ExtTreeSet.distinct_toList.imp ?_
    rintro x y hne rfl
    exact hne Std.ReflCmp.compare_self
  rw [← ExtTreeSet.length_toList, ← ExtTreeSet.length_toList]
  refine (hnodup.subperm fun id hid => ?_).length_le
  rw [ExtTreeSet.mem_toList] at hid ⊢
  exact h id hid

/-- **A run takes a slot for each message it gets accepted.** -/
theorem acceptedSteps_length_le (s : Session) (ops : List Op) :
    (acceptedSteps mode s ops).length + s.seenMessageIds.size
      ≤ (run mode s ops).seenMessageIds.size := by
  induction ops generalizing s with
  | nil => simp [acceptedSteps]
  | cons op ops ih =>
    have hmono : ∀ id ∈ s.seenMessageIds, id ∈ (op.apply mode s).seenMessageIds := fun id hid =>
      (op.apply_moves s).invariant (P := fun s => id ∈ s.seenMessageIds)
        (fun _ _ hm => hm.seen_mono) hid
    have hstep : (op.accepted mode s).length + s.seenMessageIds.size
        ≤ (op.apply mode s).seenMessageIds.size := by
      unfold Op.accepted
      split
      · split
        · rename_i env nowMs _ _ _ hacc
          obtain ⟨hfree, htaken⟩ := step_accepted_slot hacc
          have hsub := size_le_of_subset (a := s.seenMessageIds.insert env.messageId)
            (b := (Op.apply mode s (.step env nowMs)).seenMessageIds) fun id hid => by
              rcases ExtTreeSet.mem_insert.mp hid with heq | hold
              · rw [← Std.compare_eq_iff_eq.mp heq]
                exact htaken
              · exact hmono id hold
          rw [ExtTreeSet.size_insert, if_neg (by simpa using hfree)] at hsub
          rw [List.length_singleton]
          omega
        · simpa using size_le_of_subset hmono
      · simpa using size_le_of_subset hmono
    have hrest := ih (op.apply mode s)
    rw [acceptedSteps, List.length_append, run_cons]
    omega

/-- What is accepted later was not taken before. -/
lemma acceptedIds_fresh (s : Session) (calls : Calls) :
    ∀ id ∈ acceptedIds mode s calls, id ∉ s.seenMessageIds := by
  induction calls generalizing s with
  | nil =>
    intro id hid
    cases hid
  | cons call calls ih =>
    obtain ⟨env, nowMs⟩ := call
    have hmono : ∀ id, id ∈ s.seenMessageIds →
        id ∈ (step s env mode nowMs).1.seenMessageIds := fun id =>
      (step_moves s env nowMs).invariant (P := fun s => id ∈ s.seenMessageIds)
        fun _ _ hm => hm.seen_mono
    intro id hid
    rw [acceptedIds] at hid
    split at hid
    · rename_i hacc
      rcases List.mem_cons.mp hid with rfl | hid
      · exact (step_accepted_slot hacc).1
      · exact fun hs => ih _ id hid (hmono id hs)
    · exact fun hs => ih _ id hid (hmono id hs)

/-- Over any sequence of calls, each id is accepted by at most one. -/
lemma acceptedIds_nodup (s : Session) (calls : Calls) : (acceptedIds mode s calls).Nodup := by
  induction calls generalizing s with
  | nil => exact List.nodup_nil
  | cons call calls ih =>
    obtain ⟨env, nowMs⟩ := call
    rw [acceptedIds]
    split
    · rename_i hacc
      refine List.nodup_cons.mpr ⟨fun hmem => ?_, ih _⟩
      exact acceptedIds_fresh _ calls _ hmem (step_accepted_slot hacc).2
    · exact ih _

/-! ### Rejections -/

/-- Whether a message got past the preconditions and the admission. -/
def Admitted (mode : Mode) (s : Session) (env : Envelope) (nowMs : Int64) : Prop :=
  checkPreconditions s env nowMs = .ok .Proceed ∧ admitEnvelope s env mode = .ok ()

/-- The session a rejected call leaves, unless it was rejected for an expired session. -/
lemma step_rejected_frame {e : MacpError} (h : (step s env mode nowMs).2 = .error e)
    (hne : checkPreconditions s env nowMs ≠ .ok .Expired) :
    (Admitted mode s env nowMs → (step s env mode nowMs).1 = (advance s mode nowMs).1)
      ∧ (¬ Admitted mode s env nowMs → (step s env mode nowMs).1 = s) := by
  have hcase := step_cases mode s env nowMs
  generalize step s env mode nowMs = r at hcase h ⊢
  cases hcase with
  | refused hpre =>
    refine ⟨fun hadm => ?_, fun _ => rfl⟩
    cases hpre.symm.trans hadm.1
  | duplicate _ => cases h
  | expired hpre => exact absurd hpre hne
  | notAdmitted _ hclient =>
    refine ⟨fun hadm => ?_, fun _ => rfl⟩
    cases hclient.symm.trans hadm.2
  | stuck hpre hclient _ => exact ⟨fun _ => rfl, fun hn => absurd ⟨hpre, hclient⟩ hn⟩
  | rejected hpre hclient _ _ => exact ⟨fun _ => rfl, fun hn => absurd ⟨hpre, hclient⟩ hn⟩
  | accepted _ _ _ _ => cases h

/-- A rejected call takes no slot but those of what it emitted. -/
lemma step_rejected_slot {e : MacpError} (h : (step s env mode nowMs).2 = .error e) {id : String}
    (hfree : id ∉ s.seenMessageIds)
    (hemit : ∀ em ∈ (advanceLoop mode nowMs maxSyntheticPerStep s).2.1, em.messageId ≠ id) :
    id ∉ (step s env mode nowMs).1.seenMessageIds := by
  have hadv : id ∉ (advance s mode nowMs).1.seenMessageIds := fun hmem => by
    rcases (advanceLoop_seen nowMs maxSyntheticPerStep s id).mp hmem with hs | ⟨em, hem, hid⟩
    · exact hfree hs
    · exact hemit em hem hid
  have hcase := step_cases mode s env nowMs
  generalize step s env mode nowMs = r at hcase h ⊢
  cases hcase with
  | refused _ => exact hfree
  | duplicate _ => cases h
  | expired _ =>
    rw [Session.expire]
    split_ifs <;> exact hfree
  | notAdmitted _ _ => exact hfree
  | stuck _ _ _ => exact hadv
  | rejected _ _ _ _ => exact hadv
  | accepted _ _ _ _ => cases h

/-- **Rejection atomicity and at-most-once acceptance**, for any mode and any session.  Over
any sequence of calls each id is accepted by at most one.  A duplicate changes nothing; a
call that finds the deadline passed only expires the session; every other rejected call
leaves the session as `advance` alone leaves it when the message had been admitted, and
untouched otherwise, so its id is still free unless the mode itself emitted it. -/
theorem step_atomicity (mode : Mode) (s : Session) :
    (∀ calls : Calls, (acceptedIds mode s calls).Nodup)
      ∧ ∀ (env : Envelope) (nowMs : Int64),
        ((step s env mode nowMs).2 = .ok .Duplicate → (step s env mode nowMs).1 = s)
        ∧ (checkPreconditions s env nowMs = .ok .Expired →
            step s env mode nowMs = (s.expire.1, .error .TtlExpired))
        ∧ (∀ e, (step s env mode nowMs).2 = .error e →
            checkPreconditions s env nowMs ≠ .ok .Expired →
            (Admitted mode s env nowMs → (step s env mode nowMs).1 = (advance s mode nowMs).1)
            ∧ (¬ Admitted mode s env nowMs → (step s env mode nowMs).1 = s))
        ∧ (∀ e, (step s env mode nowMs).2 = .error e → env.messageId ∉ s.seenMessageIds →
            (∀ em ∈ (advanceLoop mode nowMs maxSyntheticPerStep s).2.1,
              em.messageId ≠ env.messageId) →
            env.messageId ∉ (step s env mode nowMs).1.seenMessageIds) := by
  refine ⟨fun calls => acceptedIds_nodup s calls, fun env nowMs => ⟨fun h => ?_, fun h => ?_,
    fun e he hne => step_rejected_frame he hne, fun e he hfree => step_rejected_slot he hfree⟩⟩
  · have hcase := step_cases mode s env nowMs
    generalize step s env mode nowMs = r at hcase h ⊢
    cases hcase with
    | duplicate _ => rfl
    | _ => cases h
  · have hcase := step_cases mode s env nowMs
    generalize step s env mode nowMs = r at hcase ⊢
    cases hcase with
    | refused hpre => cases hpre.symm.trans h
    | duplicate hpre => cases hpre.symm.trans h
    | expired _ => rfl
    | notAdmitted hpre _ => cases hpre.symm.trans h
    | stuck hpre _ _ => cases hpre.symm.trans h
    | rejected hpre _ _ _ => cases hpre.symm.trans h
    | accepted hpre _ _ _ => cases hpre.symm.trans h

/-- A mode that reports an expired TTL of its own: its error is the one `step` uses for a
passed deadline. -/
def expiringMode : Mode where
  onSessionStart := fun _ _ => .ok .NoOp
  onMessage := fun _ _ => .error .TtlExpired

/-- A mode whose due envelope carries the id of the message that triggered it, and which
refuses that message. -/
def squattingMode : Mode where
  onSessionStart := fun _ _ => .ok .NoOp
  onMessage := fun _ env =>
    if env.messageType = "Due" then .ok .NoOp else .error .InvalidPayload
  dueSyntheticEnvelope := fun _ _ => some (Passthrough.sampleEnvelope "Due" "m1" "a" [])

/-- The error value does not tell an expired session from a mode's own verdict, and a
rejected id is not always free: with the first mode a call returns `TtlExpired` and leaves
the session open; with the second a rejected message has lost its id. -/
theorem step_error_ambiguous :
    ((step Passthrough.sampleSession (Passthrough.sampleEnvelope "Msg" "m1" "a" [])
          expiringMode 10).2 = .error .TtlExpired
        ∧ (step Passthrough.sampleSession (Passthrough.sampleEnvelope "Msg" "m1" "a" [])
          expiringMode 10).1.state ≠ Passthrough.sampleSession.expire.1.state)
      ∧ (step Passthrough.sampleSession (Passthrough.sampleEnvelope "Msg" "m1" "a" [])
          squattingMode 10).2 = .error .InvalidPayload
      ∧ checkPreconditions (step Passthrough.sampleSession
          (Passthrough.sampleEnvelope "Msg" "m1" "a" []) squattingMode 10).1
          (Passthrough.sampleEnvelope "Msg" "m1" "a" []) 11 = .ok .Duplicate := by
  refine ⟨⟨?_, ?_⟩, ?_, ?_⟩ <;> decide

end MacpRuntime
