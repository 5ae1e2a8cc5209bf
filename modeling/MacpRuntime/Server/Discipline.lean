import MacpRuntime.Decision.Record
import MacpRuntime.MultiRound.Convergence
import MacpRuntime.Server.Refinement

/-!
The records of the modes on the server: **every session in memory keeps the discipline of its mode**
(`hosted_discipline`), whatever brought it there.
-/

namespace MacpRuntime

/-- What a mode's start gives, and every reading back and every accepted message keep, the mode
keeps, if it reads the participants only. -/
lemma StateMode.keeps {σ : Type} {m : StateMode σ} {P : List String → σ → Prop}
    (hstart : ∀ s st, m.start s = .ok st → P s.participants st)
    (hreread : ∀ ps st st', m.decode (m.encode st) = some st' → P ps st → P ps st')
    (htook : ∀ s env st outcome, m.Took s env st outcome → P s.participants st →
      P s.participants outcome.state) :
    m.mode.Keeps fun s => ∀ st, m.held s = some st → P s.participants st where
  congr s t hsame h st hst := by
    rw [held, hsame.modeState] at hst
    rw [hsame.participants]
    exact h st hst
  start s env r hr st hst := by
    change m.onSessionStart s = .ok r at hr
    unfold onSessionStart at hr
    split at hr
    · cases hr
    · rename_i st₀ hst₀
      cases hr
      rw [held_of_encoded rfl] at hst
      exact hreread _ _ _ hst (hstart s st₀ hst₀)
  message s env ctx r hauth hmsg h st hst := by
    obtain ⟨st₀, outcome, hst₀, hout, rfl⟩ := onMessage_eq_ok hmsg
    have hpart : (s.applyModeResponse (outcome.response m.encode)).participants = s.participants :=
      congrArg (·.participants) (Session.applyModeResponse_bindings s _)
    have hbytes : (s.applyModeResponse (outcome.response m.encode)).modeState
        = m.encode outcome.state := by
      unfold Outcome.response
      cases outcome.resolution <;> rfl
    rw [held_of_encoded hbytes] at hst
    rw [hpart]
    exact hreread _ _ _ hst (htook s env st₀ outcome ⟨hauth, hst₀, hout⟩ (h st₀ hst₀))

/-- What each mode keeps of its sessions: a handoff has one unsettled offer at most; ballots are
declared participants'; a decision's record is sound; and the values of the rounds are those of some
contributions, with convergence read off them. -/
inductive Discipline : Mode → (Session → Prop) → Prop
  | handoff (d : Handoff.Deps) : Discipline (Handoff.mode d) (Handoff.Fit d)
  | quorum (d : Quorum.Deps) : Discipline (Quorum.parts d).mode fun s =>
      ∀ st, (Quorum.parts d).held s = some st → st.Enrolled s.participants
  | decision (d : Decision.Deps) : Discipline (Decision.parts d).mode fun s =>
      ∀ st, (Decision.parts d).held s = some st → st.Sound s.participants
  | multiRound (d : MultiRound.Deps) : Discipline (MultiRound.parts d).mode fun s =>
      ∀ st, (MultiRound.parts d).held s = some st → s.participants ≠ []
        ∧ ∃ history, MultiRound.Tracks d s.participants history st

variable {mode : Mode} {P : Session → Prop}

lemma Discipline.keeps (h : Discipline mode P) : mode.Keeps P := by
  cases h with
  | handoff d => exact Handoff.mode_keeps_fit d
  | quorum d =>
    refine StateMode.keeps (fun s st hst => ?_) (fun ps st st' hread h => ?_)
      fun _ _ _ _ => Quorum.took_enrolled
    · change Quorum.onSessionStart s = _ at hst
      unfold Quorum.onSessionStart at hst
      split_ifs at hst
      cases hst
      intro voter ballot hget
      simp [Quorum.State.default] at hget
    · rw [Quorum.parts_decode_encode] at hread
      exact Option.some.inj hread ▸ h
  | decision d =>
    refine StateMode.keeps (fun s st hst => ?_) (fun ps st st' hread h => ?_)
      fun _ _ _ _ htook h => (Decision.took_change htook).sound h
    · cases hst
      exact Decision.State.default_sound s.participants
    · rw [Decision.parts_decode_encode] at hread
      exact h.reread hread
  | multiRound d =>
    refine StateMode.keeps
      (P := fun ps st => ps ≠ [] ∧ ∃ history, MultiRound.Tracks d ps history st)
      (fun s st hst => ?_) (fun ps st st' hread h => ?_) fun _ _ _ _ htook h =>
        ⟨h.1, h.2.elim fun _ ht => ⟨_, MultiRound.took_tracks h.1 htook ht⟩⟩
    · exact (MultiRound.tracks_start hst).imp_right fun h => ⟨[], h⟩
    · rw [MultiRound.parts_decode_encode] at hread
      exact Option.some.inj hread ▸ h

/-- **The discipline of the modes on the server.**  Every session in memory keeps it: after any
calls on its id, with any writes failing, evictions, deletions and restarts between them, each under
registries of its own that run the mode under the session's mode name. -/
theorem hosted_discipline {serde : SessionSerde} (hserde : serde.KeepsState)
    {name sessionId : String} {rts : Set Runtime} {h : Host} {s : Session}
    (hdisc : Discipline mode P) (hrts : ∀ rt ∈ rts, rt.Serves serde name mode)
    (hh : Hosted rts sessionId h) (hs : h.world.session = some s) (hname : s.mode = name) :
    P s := by
  have hbuiltin : Builtin mode := by cases hdisc <;> constructor
  exact hh.upheld hserde hrts hdisc.keeps hbuiltin.logFaithful hs hname

/-- The id of the sample session after a restart. -/
def restartedHost : Host :=
  HostOp.apply (floatingRuntime 2) sampleId startedHost (.restart true true true)

/-- The offer of the sample session. -/
def sampleHostOffer : HostOp := .server (.process Handoff.sampleOffer none 0) true

lemma restartedHost_offered :
    (sampleHostOffer.apply (floatingRuntime 1) sampleId restartedHost).world.session
      = some (Handoff.offered (Handoff.sampleSession 10) 10) := by
  have hsession : restartedHost.world.session
      = some (Handoff.sampleSession 10) := rfl
  have hclock : restartedHost.world.io.Clocked {10} := fun _ => rfl
  have hreliable : restartedHost.world.io.Reliable := fun _ => rfl
  have happly : (sampleHostOffer.apply (floatingRuntime 1) sampleId restartedHost).world
      = restartedHost.world.onCell fun c =>
          (processMessage (floatingRuntime 1) Handoff.sampleOffer c).1 := rfl
  have hst : Handoff.decodeState Handoff.deps (Handoff.sampleSession 10)
      = some .default := Handoff.decodeState_of_encoded rfl
  have hdrained : Drained (Handoff.mode Handoff.deps)
      (Handoff.sampleSession 10) 10 :=
    .quiet (Handoff.sampleOffer_passes 10 hst rfl rfl rfl).2.1
  have hstep : (step (Handoff.sampleSession 10) Handoff.sampleOffer
      (Handoff.mode Handoff.deps) 10).1
      = Handoff.offered (Handoff.sampleSession 10) 10 :=
    Handoff.step_sampleOffer hst (by decide) rfl rfl rfl
  have hmode : (floatingRuntime 1).registries.modes.instantiate "macp.mode.handoff.v1"
      = .ok (Handoff.mode Handoff.deps) := rfl
  rw [happly, World.onCell, hsession]
  rcases processMessage_cases hmode hdrained hclock with hrefines | ⟨_, hfailed⟩
  · exact congrArg some (hrefines.session.trans hstep)
  · exact absurd hreliable hfailed

theorem hosted_discipline_sample :
    (sampleHostOffer.apply (floatingRuntime 1) sampleId restartedHost).world.session
        = some (Handoff.offered (Handoff.sampleSession 10) 10)
      ∧ Handoff.offerAt Handoff.deps
          (Handoff.offered (Handoff.sampleSession 10) 10) "h"
        = some (Handoff.sampleRecord 10 0)
      ∧ Handoff.Fit Handoff.deps
        (Handoff.offered (Handoff.sampleSession 10) 10) := by
  have hhosted : Hosted (Set.range floatingRuntime) sampleId
      (sampleHostOffer.apply (floatingRuntime 1) sampleId restartedHost) :=
    .apply (Set.mem_range_self 1) (.apply (Set.mem_range_self 2) startedHost_hosted _) _
  refine ⟨restartedHost_offered, Handoff.offerAt_offered _ _, ?_⟩
  exact hosted_discipline (jsonSessionOf_keepsState shortestDecimal) (.handoff Handoff.deps)
    (fun _ => floatingRuntime_serves) hhosted restartedHost_offered rfl

end MacpRuntime
