import MacpRuntime.Decision.Mode
import MacpRuntime.Handoff.Mode
import MacpRuntime.MultiRound.Mode
import MacpRuntime.Proposal.Mode
import MacpRuntime.Quorum.Mode
import MacpRuntime.Task.Mode

/-!
The modes a runtime is built with (`ModeRegistry::build_default`,
`macp-modes/src/mode_registry.rs`).  Only the handoff mode emits envelopes of its own.
-/

namespace MacpRuntime

/-- The built-in modes. -/
inductive Builtin : Mode → Prop
  | decision (d : Decision.Deps) : Builtin (Decision.parts d).mode
  | proposal (d : Proposal.Deps) : Builtin (Proposal.parts d).mode
  | task (d : Task.Deps) : Builtin (Task.parts d).mode
  | handoff (d : Handoff.Deps) : Builtin (Handoff.mode d)
  | quorum (d : Quorum.Deps) : Builtin (Quorum.parts d).mode
  | multiRound (d : MultiRound.Deps) : Builtin (MultiRound.parts d).mode

/-- A built-in mode is the handoff mode, or nothing is ever due in it. -/
lemma Builtin.handoff_or_silent {mode : Mode} (h : Builtin mode) :
    (∃ d, mode = Handoff.mode d)
      ∨ ∀ s nowMs, mode.dueSyntheticEnvelope s nowMs = none := by
  cases h with
  | handoff d => exact .inl ⟨d, rfl⟩
  | _ => exact .inr fun _ _ => rfl

end MacpRuntime
