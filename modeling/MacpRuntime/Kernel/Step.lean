import MacpRuntime.Core.Session

/-!
The per-message step of the library kernel (`macp-modes/src/step.rs`) over an arbitrary mode
(`macp-modes/src/mode/mod.rs`).  A mode is a tuple of functions, so it is pure by construction.

* `checkPreconditions`, `admitEnvelope`, `nextSynthetic`, `dispatch`, `commit`: the phases;
* `advanceLoop`: the loop that emits every due envelope.  It also returns what it emitted before an
  error, which the session keeps although the call does not report it;
* `advanceLoop_invariant`: what each emission keeps, a whole `advance` keeps;
* `StepCase`, `step_cases`: the seven ways a step can end, with the session each leaves;
* `step_advance_iff`: when a step may be split into an `advance` and a step.
-/

namespace MacpRuntime

/-! ### Modes -/

variable (session : Session) (env : Envelope)

/-- The default sender rule: an empty roster admits everybody. -/
def defaultAuthorizeSender : Except MacpError Unit :=
  if !session.participants.isEmpty && !session.participants.contains env.sender then
    .error .Forbidden
  else .ok ()

/-- The `Mode` trait. -/
structure Mode where
  onSessionStart : Session → Envelope → Except MacpError ModeResponse
  onMessage : Session → Envelope → Except MacpError ModeResponse
  onMessageAt : Session → Envelope → MessageContext → Except MacpError ModeResponse :=
    fun session env _ => onMessage session env
  validateClientEnvelope : Session → Envelope → Except MacpError Unit := fun _ _ => .ok ()
  dueSyntheticEnvelope : Session → Int64 → Option Envelope := fun _ _ => none
  authorizeSender : Session → Envelope → Except MacpError Unit := defaultAuthorizeSender

/-! ### The phases -/

/-- The bound on synthetic envelopes emitted for one observation. -/
def maxSyntheticPerStep : ℕ := 64

/-- The outcome of the mode-independent checks. -/
inductive Precheck where
  | Duplicate
  | Expired
  | Proceed
  deriving DecidableEq, Repr

/-- Reject an envelope that no session could accept. -/
def checkEnvelopeShape : Except MacpError Unit :=
  if env.macpVersion ≠ macpVersion then .error .InvalidMacpVersion
  else if env.messageType.isEmpty || env.messageId.isEmpty || env.sender.isEmpty then
    .error .InvalidEnvelope
  else .ok ()

/-- Shape, dedup, mode binding, deadline and the open gate, in that order. -/
def checkPreconditions (nowMs : Int64) : Except MacpError Precheck :=
  match checkEnvelopeShape env with
  | .error e => .error e
  | .ok _ =>
    if session.seenMessageIds.contains env.messageId then .ok .Duplicate
    else if env.mode ≠ session.mode ∨ env.sessionId ≠ session.sessionId then
      .error .InvalidEnvelope
    else if session.deadlinePassed nowMs then .ok .Expired
    else if session.state ≠ .Open then .error .SessionNotOpen
    else .ok .Proceed

/-- Sender authorization, then the client boundary. -/
def admitEnvelope (mode : Mode) : Except MacpError Unit :=
  match mode.authorizeSender session env with
  | .error e => .error e
  | .ok _ => mode.validateClientEnvelope session env

/-- Mode dispatch at the acceptance clock. -/
def dispatch (mode : Mode) (nowMs : Int64) : Except MacpError ModeResponse :=
  mode.onMessageAt session env ⟨nowMs⟩

/-- Commit a validated message; returns the session and its resulting state. -/
def commit (response : ModeResponse) (nowMs : Int64) : Session × SessionState :=
  let session := { session with seenMessageIds := session.seenMessageIds.insert env.messageId }
  let session := session.recordParticipantActivity env.sender nowMs
  let session := session.applyModeResponse response
  (session, session.state)

/-- A due envelope, already dispatched and not yet applied. -/
structure Synthetic where
  envelope : Envelope
  response : ModeResponse
  deriving DecidableEq, Repr

/-- The next envelope the mode says must enter history first. -/
def nextSynthetic (mode : Mode) (nowMs : Int64) : Except MacpError (Option Synthetic) :=
  if session.state ≠ .Open then .ok none
  else
    match mode.dueSyntheticEnvelope session nowMs with
    | none => .ok none
    | some envelope =>
      if session.seenMessageIds.contains envelope.messageId then .ok none
      else
        match mode.authorizeSender session envelope with
        | .error e => .error e
        | .ok _ =>
          match mode.onMessageAt session envelope ⟨envelope.timestampUnixMs⟩ with
          | .error e => .error e
          | .ok response => .ok (some ⟨envelope, response⟩)

/-- Apply a synthetic: its dedup slot and its response, and no participant activity. -/
def commitSynthetic (syn : Synthetic) : Session × Envelope :=
  let session :=
    { session with seenMessageIds := session.seenMessageIds.insert syn.envelope.messageId }
  (session.applyModeResponse syn.response, syn.envelope)

/-- The emission loop with `budget` envelopes still allowed: the session it leaves, what
it emitted, and the error that stopped it, if any. -/
def advanceLoop (mode : Mode) (nowMs : Int64) :
    ℕ → Session → Session × List Envelope × Option MacpError
  | budget, session =>
    match nextSynthetic session mode nowMs, budget with
    | .error e, _ => (session, [], some e)
    | .ok none, _ => (session, [], none)
    | .ok (some _), 0 => (session, [], some .InvalidModeState)
    | .ok (some syn), budget + 1 =>
      let c := commitSynthetic session syn
      let rest := advanceLoop mode nowMs budget c.1
      (rest.1, c.2 :: rest.2.1, rest.2.2)

/-- Emit every envelope due at `nowMs`, in order. -/
def advance (mode : Mode) (nowMs : Int64) : Session × Except MacpError (List Envelope) :=
  let r := advanceLoop mode nowMs maxSyntheticPerStep session
  (r.1,
    match r.2.2 with
    | some e => .error e
    | none => .ok r.2.1)

/-- The outcome of a step. -/
inductive StepOutcome where
  | Duplicate
  | Accepted (state : SessionState) (synthesized : List Envelope)
  deriving DecidableEq, Repr

/-- The all-in-one step: preconditions, `admitEnvelope`, `advance`, `dispatch`, `commit`. -/
def step (mode : Mode) (nowMs : Int64) : Session × Except MacpError StepOutcome :=
  match checkPreconditions session env nowMs with
  | .error e => (session, .error e)
  | .ok .Duplicate => (session, .ok .Duplicate)
  | .ok .Expired =>
    match session.expire with
    | (session, .error e) => (session, .error e)
    | (session, .ok _) => (session, .error .TtlExpired)
  | .ok .Proceed =>
    match admitEnvelope session env mode with
    | .error e => (session, .error e)
    | .ok _ =>
      match advance session mode nowMs with
      | (session, .error e) => (session, .error e)
      | (session, .ok synthesized) =>
        match dispatch session env mode nowMs with
        | .error e => (session, .error e)
        | .ok response =>
          let c := commit session env response nowMs
          (c.1, .ok (.Accepted c.2 synthesized))

/-! ### What a phase that passed has established -/

variable {session : Session} {env : Envelope} {mode : Mode} {nowMs : Int64}

lemma checkEnvelopeShape_eq_ok (h : checkEnvelopeShape env = .ok ()) :
    env.messageId.isEmpty = false := by
  unfold checkEnvelopeShape at h
  split_ifs at h with h1 h2
  rw [Bool.or_eq_true, Bool.or_eq_true, not_or, not_or] at h2
  simpa using h2.1.2

/-- The version an envelope of the right shape carries. -/
lemma checkEnvelopeShape_version (h : checkEnvelopeShape env = .ok ()) :
    env.macpVersion = macpVersion := by
  unfold checkEnvelopeShape at h
  split_ifs at h with hversion
  exact not_not.mp hversion

/-- A message that may proceed is new, addressed to this session, in time, and finds the
session open. -/
lemma checkPreconditions_eq_proceed (h : checkPreconditions session env nowMs = .ok .Proceed) :
    checkEnvelopeShape env = .ok () ∧ env.messageId ∉ session.seenMessageIds
      ∧ session.deadlinePassed nowMs = false ∧ session.state = .Open := by
  unfold checkPreconditions at h
  split at h
  · cases h
  · rename_i hshape
    split_ifs at h with h1 h2 h3 h4
    · cases h
    · cases h
    · exact ⟨hshape, h1, by simpa using h3, not_not.mp h4⟩

/-- The expiry verdict is given on a session whose deadline has passed. -/
lemma checkPreconditions_eq_expired (h : checkPreconditions session env nowMs = .ok .Expired) :
    session.deadlinePassed nowMs = true := by
  unfold checkPreconditions at h
  split at h
  · cases h
  · split_ifs at h with h1 h2 h3 h4
    · cases h
    · exact h3
    · cases h

lemma admitEnvelope_eq_ok (h : admitEnvelope session env mode = .ok ()) :
    mode.authorizeSender session env = .ok ()
      ∧ mode.validateClientEnvelope session env = .ok () := by
  unfold admitEnvelope at h
  split at h
  · cases h
  · rename_i hauth
    exact ⟨hauth, h⟩

variable {syn : Synthetic} {s : Session} {emitted : List Envelope}

/-- A synthetic is due, new, authorized, and accepted by the mode at its own stamp. -/
lemma nextSynthetic_eq_some (h : nextSynthetic session mode nowMs = .ok (some syn)) :
    session.state = .Open ∧ mode.dueSyntheticEnvelope session nowMs = some syn.envelope
      ∧ syn.envelope.messageId ∉ session.seenMessageIds
      ∧ mode.authorizeSender session syn.envelope = .ok ()
      ∧ mode.onMessageAt session syn.envelope ⟨syn.envelope.timestampUnixMs⟩
          = .ok syn.response := by
  unfold nextSynthetic at h
  split_ifs at h with hopen
  · cases h
  · split at h
    · cases h
    · rename_i envelope hdue
      split_ifs at h with hseen
      · cases h
      · split at h
        · cases h
        · rename_i hauth
          split at h
          · cases h
          · rename_i response hmsg
            cases h
            exact ⟨not_not.mp hopen, hdue, hseen, hauth, hmsg⟩

/-- A session that is not open emits nothing. -/
lemma nextSynthetic_of_not_open (h : session.state ≠ .Open) :
    nextSynthetic session mode nowMs = .ok none := by
  rw [nextSynthetic, if_pos h]

/-- With nothing due, nothing is emitted. -/
lemma nextSynthetic_of_not_due
    (h : mode.dueSyntheticEnvelope session nowMs = none) :
    nextSynthetic session mode nowMs = .ok none := by
  rw [nextSynthetic, h, ite_self]

/-- What is due is not emitted again once its id is taken. -/
lemma nextSynthetic_of_seen {envelope : Envelope}
    (h : mode.dueSyntheticEnvelope session nowMs = some envelope)
    (hseen : envelope.messageId ∈ session.seenMessageIds) :
    nextSynthetic session mode nowMs = .ok none := by
  have hcontains : session.seenMessageIds.contains envelope.messageId = true := hseen
  rw [nextSynthetic, h]
  dsimp only
  rw [if_pos hcontains, ite_self]

/-! ### The emission loop, one turn at a time -/

lemma advanceLoop_of_error {e : MacpError} (h : nextSynthetic session mode nowMs = .error e)
    (budget : ℕ) : advanceLoop mode nowMs budget session = (session, [], some e) := by
  unfold advanceLoop
  simp only [h]

lemma advanceLoop_of_none (h : nextSynthetic session mode nowMs = .ok none) (budget : ℕ) :
    advanceLoop mode nowMs budget session = (session, [], none) := by
  unfold advanceLoop
  simp only [h]

lemma advanceLoop_zero (h : nextSynthetic session mode nowMs = .ok (some syn)) :
    advanceLoop mode nowMs 0 session = (session, [], some .InvalidModeState) := by
  unfold advanceLoop
  simp only [h]

lemma advanceLoop_succ (h : nextSynthetic session mode nowMs = .ok (some syn)) (budget : ℕ) :
    advanceLoop mode nowMs (budget + 1) session
      = ((advanceLoop mode nowMs budget (commitSynthetic session syn).1).1,
          syn.envelope :: (advanceLoop mode nowMs budget (commitSynthetic session syn).1).2.1,
          (advanceLoop mode nowMs budget (commitSynthetic session syn).1).2.2) := by
  conv_lhs => rw [advanceLoop.eq_def]
  simp only [h]
  rfl

lemma advanceLoop_of_not_open (h : session.state ≠ .Open) (budget : ℕ) :
    advanceLoop mode nowMs budget session = (session, [], none) :=
  advanceLoop_of_none (nextSynthetic_of_not_open h) budget

lemma advance_of_none (h : nextSynthetic session mode nowMs = .ok none) :
    advance session mode nowMs = (session, .ok []) := by
  rw [advance, advanceLoop_of_none h]

/-- An emission with nothing after it is the whole `advance`. -/
lemma advance_of_last (h : nextSynthetic session mode nowMs = .ok (some syn))
    (hlast : nextSynthetic (commitSynthetic session syn).1 mode nowMs = .ok none) :
    advance session mode nowMs = ((commitSynthetic session syn).1, .ok [syn.envelope]) := by
  rw [advance, maxSyntheticPerStep, advanceLoop_succ h, advanceLoop_of_none hlast]

/-- With nothing to emit, `advance` leaves the session as it is. -/
lemma advance_eq_self (h : ∀ syn, nextSynthetic session mode nowMs ≠ .ok (some syn)) :
    (advance session mode nowMs).1 = session := by
  rw [advance]
  rcases hn : nextSynthetic session mode nowMs with e | _ | syn
  · rw [advanceLoop_of_error hn]
  · rw [advanceLoop_of_none hn]
  · exact absurd hn (h syn)

/-- **What every emission keeps, a whole emission loop keeps.** -/
theorem advanceLoop_invariant {P : Session → Prop}
    (hstep : ∀ s syn, P s → nextSynthetic s mode nowMs = .ok (some syn) →
      P (commitSynthetic s syn).1) (budget : ℕ) (hP : P session) :
    P (advanceLoop mode nowMs budget session).1 := by
  induction budget generalizing session with
  | zero =>
    rcases hn : nextSynthetic session mode nowMs with e | _ | syn
    · rwa [advanceLoop_of_error hn]
    · rwa [advanceLoop_of_none hn]
    · rwa [advanceLoop_zero hn]
  | succ n ih =>
    rcases hn : nextSynthetic session mode nowMs with e | _ | syn
    · rwa [advanceLoop_of_error hn]
    · rwa [advanceLoop_of_none hn]
    · rw [advanceLoop_succ hn]
      exact ih (hstep session syn hP hn)

/-! ### The cases of a step -/

/-- The outcomes of a step, each with the session it leaves. -/
inductive StepCase (mode : Mode) (s : Session) (env : Envelope) (nowMs : Int64) :
    Session × Except MacpError StepOutcome → Prop
  | refused {e : MacpError} (hpre : checkPreconditions s env nowMs = .error e) :
      StepCase mode s env nowMs (s, .error e)
  | duplicate (hpre : checkPreconditions s env nowMs = .ok .Duplicate) :
      StepCase mode s env nowMs (s, .ok .Duplicate)
  | expired (hpre : checkPreconditions s env nowMs = .ok .Expired) :
      StepCase mode s env nowMs (s.expire.1, .error .TtlExpired)
  | notAdmitted {e : MacpError} (hpre : checkPreconditions s env nowMs = .ok .Proceed)
      (hadm : admitEnvelope s env mode = .error e) : StepCase mode s env nowMs (s, .error e)
  | stuck {e : MacpError} (hpre : checkPreconditions s env nowMs = .ok .Proceed)
      (hadm : admitEnvelope s env mode = .ok ()) (hadv : (advance s mode nowMs).2 = .error e) :
      StepCase mode s env nowMs ((advance s mode nowMs).1, .error e)
  | rejected {e : MacpError} {emitted : List Envelope}
      (hpre : checkPreconditions s env nowMs = .ok .Proceed)
      (hadm : admitEnvelope s env mode = .ok ()) (hadv : (advance s mode nowMs).2 = .ok emitted)
      (hmsg : dispatch (advance s mode nowMs).1 env mode nowMs = .error e) :
      StepCase mode s env nowMs ((advance s mode nowMs).1, .error e)
  | accepted {emitted : List Envelope} {response : ModeResponse}
      (hpre : checkPreconditions s env nowMs = .ok .Proceed)
      (hadm : admitEnvelope s env mode = .ok ()) (hadv : (advance s mode nowMs).2 = .ok emitted)
      (hmsg : dispatch (advance s mode nowMs).1 env mode nowMs = .ok response) :
      StepCase mode s env nowMs
        ((commit (advance s mode nowMs).1 env response nowMs).1,
          .ok (.Accepted (commit (advance s mode nowMs).1 env response nowMs).2 emitted))

/-- **Every step is one of the seven cases.** -/
theorem step_cases (mode : Mode) (s : Session) (env : Envelope) (nowMs : Int64) :
    StepCase mode s env nowMs (step s env mode nowMs) := by
  unfold step
  split
  · rename_i hpre
    exact .refused hpre
  · rename_i hpre
    exact .duplicate hpre
  · rename_i hpre
    -- the deadline passed, so the session is live and expiring it cannot fail
    have hlive := s.live_of_deadlinePassed (checkPreconditions_eq_expired hpre)
    have hexp : s.expire = ({ s with state := .Expired, suspendedAtMs := none }, .ok ()) := by
      rw [Session.expire, if_neg (by simp [hlive])]
    have hcase : StepCase mode s env nowMs (s.expire.1, .error .TtlExpired) := .expired hpre
    rw [hexp] at hcase ⊢
    exact hcase
  · rename_i hpre
    split
    · rename_i hadm
      exact .notAdmitted hpre hadm
    · rename_i hadm
      split
      · rename_i s' e heq
        have hcase : StepCase mode s env nowMs ((advance s mode nowMs).1, .error e) :=
          .stuck hpre hadm (by rw [heq])
        rwa [heq] at hcase
      · rename_i s' emitted heq
        have hadv : (advance s mode nowMs).2 = .ok emitted := by rw [heq]
        split
        · rename_i e hmsg
          have hcase : StepCase mode s env nowMs ((advance s mode nowMs).1, .error e) :=
            .rejected hpre hadm hadv (by rw [heq]; exact hmsg)
          rwa [heq] at hcase
        · rename_i response hmsg
          have hcase : StepCase mode s env nowMs
              ((commit (advance s mode nowMs).1 env response nowMs).1,
                .ok (.Accepted (commit (advance s mode nowMs).1 env response nowMs).2 emitted)) :=
            .accepted hpre hadm hadv (by rw [heq]; exact hmsg)
          rwa [heq] at hcase

/-- A message that passes every phase, with nothing to emit, is committed. -/
lemma step_eq_accepted {response : ModeResponse}
    (hpre : checkPreconditions s env nowMs = .ok .Proceed)
    (hadm : admitEnvelope s env mode = .ok ()) (hsyn : nextSynthetic s mode nowMs = .ok none)
    (hmsg : dispatch s env mode nowMs = .ok response) :
    step s env mode nowMs = ((commit s env response nowMs).1,
      .ok (.Accepted (commit s env response nowMs).2 [])) := by
  simp only [step, hpre, hadm, advance_of_none hsyn, hmsg]

/-- **What an accepted step has passed.** -/
lemma step_eq_accepted_iff {s' : Session} {st : SessionState} :
    step s env mode nowMs = (s', .ok (.Accepted st emitted)) ↔
      checkPreconditions s env nowMs = .ok .Proceed ∧ admitEnvelope s env mode = .ok ()
        ∧ (advance s mode nowMs).2 = .ok emitted
        ∧ ∃ response, dispatch (advance s mode nowMs).1 env mode nowMs = .ok response
          ∧ commit (advance s mode nowMs).1 env response nowMs = (s', st) := by
  constructor
  · intro h
    have hcase := step_cases mode s env nowMs
    rw [h] at hcase
    cases hcase with
    | accepted hpre hadm hadv hmsg => exact ⟨hpre, hadm, hadv, _, hmsg, rfl⟩
  · rintro ⟨hpre, hadm, hadv, response, hmsg, hcommit⟩
    rw [step, hpre]
    dsimp only
    rw [hadm]
    rcases hadvance : advance s mode nowMs with ⟨t, r⟩
    rw [hadvance] at hadv hmsg hcommit
    dsimp only at hadv hmsg hcommit ⊢
    subst hadv
    dsimp only
    rw [hmsg]
    dsimp only
    rw [hcommit]

/-- **Emitting first changes nothing**: where the session `advance` leaves has nothing more to
emit and lets the same message through, a step is accepted on it exactly when it is accepted on
the session before, with the same session left. -/
lemma step_advance_iff
    (hadv : (advance s mode nowMs).2 = .ok emitted)
    (hquiet : advance (advance s mode nowMs).1 mode nowMs = ((advance s mode nowMs).1, .ok []))
    (hpass : checkPreconditions (advance s mode nowMs).1 env nowMs = .ok .Proceed
        ∧ admitEnvelope (advance s mode nowMs).1 env mode = .ok ()
      ↔ checkPreconditions s env nowMs = .ok .Proceed ∧ admitEnvelope s env mode = .ok ())
    (s' : Session) (st : SessionState) :
    step (advance s mode nowMs).1 env mode nowMs = (s', .ok (.Accepted st []))
      ↔ step s env mode nowMs = (s', .ok (.Accepted st emitted)) := by
  rw [step_eq_accepted_iff, step_eq_accepted_iff, hquiet, hadv, ← and_assoc, hpass, and_assoc]
  simp

end MacpRuntime
