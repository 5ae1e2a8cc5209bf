import MacpRuntime.Kernel.Step

/-!
Runs of the library kernel: any sequence of the calls an embedder may make on one session, and the
elementary moves each call is made of.

* `Op.apply_moves`: **every call is a chain of moves**;
* `run_invariant`: what every move keeps, every run keeps; `Along`, `along_invariant`: the same for
  runs each call of which meets a condition on the session it is made on;
* `acceptedSteps`: the messages a run gets accepted, each with the session it found;
* `run_bindings`, `run_of_terminal`: bindings never change, and a terminal session is fixed.
-/

namespace MacpRuntime

variable {mode : Mode}

/-- A call on a live session. -/
inductive Op where
  | step (env : Envelope) (nowMs : Int64)
  | advance (nowMs : Int64)
  | suspend (nowMs : Int64)
  | resume (nowMs : Int64)
  | cancel
  | expire
  deriving DecidableEq, Repr

namespace Op

/-- The clock a call is made at. -/
def clock : Op → Option Int64
  | .step _ nowMs | .advance nowMs | .suspend nowMs | .resume nowMs => some nowMs
  | .cancel | .expire => none

/-- The session a call leaves. -/
def apply (mode : Mode) (s : Session) : Op → Session
  | .step env nowMs => (MacpRuntime.step s env mode nowMs).1
  | .advance nowMs => (MacpRuntime.advance s mode nowMs).1
  | .suspend nowMs => (s.suspend nowMs).1
  | .resume nowMs => (s.resume nowMs).1
  | .cancel => s.cancel.1
  | .expire => s.expire.1

end Op

/-- A sequence of calls. -/
def run (mode : Mode) (s : Session) (ops : List Op) : Session := ops.foldl (Op.apply mode) s

@[simp] lemma run_nil (s : Session) : run mode s [] = s := rfl

@[simp] lemma run_cons (s : Session) (op : Op) (ops : List Op) :
    run mode s (op :: ops) = run mode (op.apply mode s) ops := rfl

lemma run_append (s : Session) (ops ops' : List Op) :
    run mode s (ops ++ ops') = run mode (run mode s ops) ops' := List.foldl_append

variable {s s' : Session} {op : Op} {P : Session → Prop} {ops : List Op}

/-- A run after a step whose result is known. -/
lemma run_step {env : Envelope} {nowMs : Int64} {result : Except MacpError StepOutcome}
    (h : step s env mode nowMs = (s', result)) (ops : List Op) :
    run mode s (.step env nowMs :: ops) = run mode s' ops := by
  rw [run_cons, Op.apply, h]

/-! ### Moves -/

/-- The elementary changes of a session, with the call that makes them.  A commit acts on
the session `advance` left, but the message was checked and admitted on the session before
it. -/
inductive Move (mode : Mode) : Op → Session → Session → Prop
  | synthetic {op : Op} {s : Session} {syn : Synthetic} {nowMs : Int64}
      (hop : op.clock = some nowMs) (hsyn : nextSynthetic s mode nowMs = .ok (some syn)) :
      Move mode op s (commitSynthetic s syn).1
  | commit {s s' : Session} {env : Envelope} {response : ModeResponse} {nowMs : Int64}
      (hpre : checkPreconditions s env nowMs = .ok .Proceed)
      (hadm : admitEnvelope s env mode = .ok ())
      (hadv : (advance s mode nowMs).1 = s')
      (hmsg : dispatch s' env mode nowMs = .ok response) :
      Move mode (.step env nowMs) s' (commit s' env response nowMs).1
  | suspend {s : Session} {nowMs : Int64} (hopen : s.state = .Open) :
      Move mode (.suspend nowMs) s { s with state := .Suspended, suspendedAtMs := some nowMs }
  | resume {s : Session} {nowMs : Int64} (hsusp : s.state = .Suspended) :
      Move mode (.resume nowMs) s (s.resume nowMs).1
  | cancel {s : Session} (hlive : s.state.isTerminal = false) :
      Move mode .cancel s { s with state := .Cancelled, suspendedAtMs := none }
  | expire {op : Op} {s : Session} (hlive : s.state.isTerminal = false) :
      Move mode op s { s with state := .Expired, suspendedAtMs := none }

/-- A chain of moves of one call. -/
abbrev Moves (mode : Mode) (op : Op) : Session → Session → Prop :=
  Relation.ReflTransGen (Move mode op)

/-- Expiring a session is at most one move. -/
lemma expire_moves (op : Op) (s : Session) : Moves mode op s s.expire.1 := by
  unfold Session.expire
  split
  · exact .refl
  · rename_i h
    exact .single (.expire (by simpa using h))

/-- An emission loop is a chain of synthetic moves. -/
lemma advanceLoop_moves {nowMs : Int64} (hop : op.clock = some nowMs) (budget : ℕ) (s : Session) :
    Moves mode op s (advanceLoop mode nowMs budget s).1 :=
  advanceLoop_invariant (P := Moves mode op s)
    (fun _ _ hP hsyn => hP.tail (.synthetic hop hsyn)) budget .refl

/-- A step is a chain of moves, whichever phase it stops in. -/
lemma step_moves (s : Session) (env : Envelope) (nowMs : Int64) :
    Moves mode (.step env nowMs) s (step s env mode nowMs).1 := by
  have hadv : Moves mode (.step env nowMs) s (advance s mode nowMs).1 :=
    advanceLoop_moves rfl maxSyntheticPerStep s
  have hcase := step_cases mode s env nowMs
  generalize step s env mode nowMs = r at hcase ⊢
  cases hcase with
  | refused _ => exact .refl
  | duplicate _ => exact .refl
  | expired _ => exact expire_moves _ s
  | notAdmitted _ _ => exact .refl
  | stuck _ _ _ => exact hadv
  | rejected _ _ _ _ => exact hadv
  | accepted hpre hadm _ hmsg => exact hadv.tail (.commit hpre hadm rfl hmsg)

/-- **Every call is a chain of moves.** -/
theorem Op.apply_moves (op : Op) (s : Session) : Moves mode op s (op.apply mode s) := by
  cases op with
  | step env nowMs => exact step_moves s env nowMs
  | advance nowMs => exact advanceLoop_moves rfl maxSyntheticPerStep s
  | suspend nowMs =>
    simp only [Op.apply, Session.suspend]
    split
    · exact .refl
    · rename_i h
      exact .single (.suspend (not_not.mp h))
  | resume nowMs =>
    by_cases h : s.state = .Suspended
    · exact .single (.resume h)
    · rw [Op.apply, Session.resume, if_pos h]
  | cancel =>
    simp only [Op.apply, Session.cancel]
    split
    · exact .refl
    · rename_i h
      exact .single (.cancel (by simpa using h))
  | expire => exact expire_moves _ s

/-! ### Invariants of runs -/

/-- What one move keeps, a chain of moves keeps. -/
lemma Moves.invariant (hmove : ∀ s s', Move mode op s s' → P s → P s') (h : Moves mode op s s')
    (hP : P s) : P s' := by
  induction h with
  | refl => exact hP
  | tail _ hm ih => exact hmove _ _ hm ih

/-- **What every move of its calls keeps, a run keeps.** -/
theorem run_invariant (hmove : ∀ op ∈ ops, ∀ s s', Move mode op s s' → P s → P s') (hP : P s) :
    P (run mode s ops) := by
  induction ops generalizing s with
  | nil => exact hP
  | cons op ops ih =>
    rw [run_cons]
    refine ih (fun op' hop' => hmove op' (List.mem_cons_of_mem _ hop')) ?_
    exact (op.apply_moves s).invariant (hmove op List.mem_cons_self) hP

/-- Every call of a run meets the condition `P` on the session it is made on. -/
def Along (mode : Mode) (P : Session → Op → Prop) : Session → List Op → Prop
  | _, [] => True
  | s, op :: ops => P s op ∧ Along mode P (op.apply mode s) ops

lemma along_append {P : Session → Op → Prop} {ops' : List Op} :
    Along mode P s (ops ++ ops') ↔ Along mode P s ops ∧ Along mode P (run mode s ops) ops' := by
  induction ops generalizing s with
  | nil => simp [Along]
  | cons op ops ih => simp only [List.cons_append, Along, run_cons, ih, and_assoc]

lemma along_true (s : Session) (ops : List Op) : Along mode (fun _ _ => True) s ops := by
  induction ops generalizing s with
  | nil => trivial
  | cons op ops ih => exact ⟨trivial, ih _⟩

/-- **What every call that meets the condition keeps, a run of such calls keeps.** -/
theorem along_invariant {P : Session → Op → Prop} {Q : Session → Prop}
    (hcall : ∀ s op, Q s → P s op → Q (op.apply mode s)) (hQ : Q s) (h : Along mode P s ops) :
    Q (run mode s ops) := by
  induction ops generalizing s with
  | nil => exact hQ
  | cons op ops ih =>
    obtain ⟨hop, hrest⟩ := h
    exact ih (hcall s op hQ hop) hrest

/-! ### Accepted messages -/

/-- The message a call gets accepted, with the session it was accepted on. -/
def Op.accepted (mode : Mode) (s : Session) : Op → List (Session × Envelope)
  | .step env nowMs =>
    match (MacpRuntime.step s env mode nowMs).2 with
    | .ok (.Accepted _ _) => [(s, env)]
    | _ => []
  | _ => []

/-- The messages a run gets accepted, in order. -/
def acceptedSteps (mode : Mode) : Session → List Op → List (Session × Envelope)
  | _, [] => []
  | s, op :: ops => op.accepted mode s ++ acceptedSteps mode (op.apply mode s) ops

lemma acceptedSteps_append (s : Session) (ops ops' : List Op) :
    acceptedSteps mode s (ops ++ ops')
      = acceptedSteps mode s ops ++ acceptedSteps mode (run mode s ops) ops' := by
  induction ops generalizing s with
  | nil => rfl
  | cons op ops ih =>
    rw [List.cons_append, acceptedSteps, acceptedSteps, ih, run_cons, List.append_assoc]

/-! ### Bindings -/

/-- No move changes what the session bound. -/
lemma Move.bindings_eq (hm : Move mode op s s') : s'.bindings = s.bindings := by
  cases hm with
  | synthetic _ _ => exact Session.applyModeResponse_bindings _ _
  | commit _ _ _ _ => exact Session.applyModeResponse_bindings _ _
  | suspend _ => rfl
  | resume _ => exact s.resume_bindings _
  | cancel _ => rfl
  | expire _ => rfl

lemma Moves.bindings_eq (h : Moves mode op s s') : s'.bindings = s.bindings :=
  h.invariant (P := fun t => t.bindings = s.bindings)
    (fun _ _ hm hP => hm.bindings_eq.trans hP) rfl

lemma advance_bindings (mode : Mode) (s : Session) (nowMs : Int64) :
    (advance s mode nowMs).1.bindings = s.bindings := by
  have h : Moves mode (.advance nowMs) s (advance s mode nowMs).1 :=
    advanceLoop_moves rfl maxSyntheticPerStep s
  exact h.bindings_eq

/-- **A run never changes what its session bound.** -/
theorem run_bindings (s : Session) (ops : List Op) : (run mode s ops).bindings = s.bindings :=
  run_invariant (P := fun t => t.bindings = s.bindings)
    (fun _ _ _ _ hm hP => hm.bindings_eq.trans hP) rfl

/-! ### Terminal sessions -/

/-- A terminal session is past every gate: a step on it changes nothing. -/
lemma step_of_terminal (h : s.state.isTerminal = true) (env : Envelope) (nowMs : Int64) :
    (step s env mode nowMs).1 = s := by
  have hnp : checkPreconditions s env nowMs ≠ .ok .Proceed := fun hpre => by
    rw [(checkPreconditions_eq_proceed hpre).2.2.2] at h
    cases h
  have hcase := step_cases mode s env nowMs
  generalize step s env mode nowMs = r at hcase ⊢
  cases hcase with
  | refused _ => rfl
  | duplicate _ => rfl
  | expired _ => rw [Session.expire, if_pos h]
  | notAdmitted hpre _ => exact absurd hpre hnp
  | stuck hpre _ _ => exact absurd hpre hnp
  | rejected hpre _ _ _ => exact absurd hpre hnp
  | accepted hpre _ _ _ => exact absurd hpre hnp

/-- **A terminal session is a fixed point of every call.** -/
theorem Op.apply_of_terminal (op : Op) (h : s.state.isTerminal = true) : op.apply mode s = s := by
  have hne : s.state ≠ .Open ∧ s.state ≠ .Suspended := by
    constructor <;> rintro heq <;> rw [heq] at h <;> cases h
  cases op with
  | step env nowMs => exact step_of_terminal h env nowMs
  | advance nowMs =>
    rw [Op.apply, MacpRuntime.advance, advanceLoop_of_not_open hne.1]
  | suspend nowMs => rw [Op.apply, Session.suspend, if_pos hne.1]
  | resume nowMs => rw [Op.apply, Session.resume, if_pos hne.2]
  | cancel => rw [Op.apply, Session.cancel, if_pos h]
  | expire => rw [Op.apply, Session.expire, if_pos h]

/-- A run from a terminal session ends where it began. -/
lemma run_of_terminal (h : s.state.isTerminal = true) (ops : List Op) : run mode s ops = s := by
  induction ops with
  | nil => rfl
  | cons op ops ih => rw [run_cons, op.apply_of_terminal h, ih]

end MacpRuntime
