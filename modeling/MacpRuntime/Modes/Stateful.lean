import MacpRuntime.Kernel.Replay
import MacpRuntime.Kernel.Run
import MacpRuntime.Modes.Util

/-!
Modes that keep a typed state in the bytes of the session.

The decision, proposal, task, quorum and multi-round modes read no clock and emit nothing of their
own: a message is handled on the state the session's bytes hold, and the state it leaves is written
back (`StateMode`).

* `StateMode.apply_cases`: **a call either leaves the bytes alone or is an accepted message**;
* `StateMode.along_history`, `along_holds`, `run_holds`, `along_related`: what every accepted
  message and every reading back of a written state keep, a whole run keeps;
* `StateMode.Legible`: the runs in which every written state is read back.
-/

namespace MacpRuntime

variable {σ : Type}

/-- The state a message leaves, and the resolution when it resolves the session. -/
structure Outcome (σ : Type) where
  state : σ
  resolution : Option Bytes

/-- The state is left and the session stays open. -/
def Outcome.persist (state : σ) : Outcome σ := ⟨state, none⟩

/-- The response that an outcome becomes. -/
def Outcome.response (encode : σ → Bytes) (outcome : Outcome σ) : ModeResponse :=
  match outcome.resolution with
  | none => .PersistState (encode outcome.state)
  | some resolution => .PersistAndResolve (encode outcome.state) resolution

/-- A mode with a typed state.  `absent` is what a session without bytes holds, and `screen` is
checked before the state is read. -/
structure StateMode (σ : Type) where
  encode : σ → Bytes
  decode : Bytes → Option σ
  encode_ne_nil : ∀ st, encode st ≠ []
  absent : Option σ
  start : Session → Except MacpError σ
  authorize : Session → Envelope → Except MacpError Unit
  screen : Envelope → Except MacpError Unit := fun _ => .ok ()
  handle : Session → Envelope → σ → Except MacpError (Outcome σ)

namespace StateMode

variable (m : StateMode σ) (session : Session)

/-- The state a session holds, if its bytes can be read. -/
def held : Option σ :=
  if session.modeState.isEmpty then m.absent else m.decode session.modeState

/-- A message: screened, then handled on the held state. -/
def onMessage (env : Envelope) : Except MacpError ModeResponse :=
  match m.screen env with
  | .error e => .error e
  | .ok _ =>
    match m.held session with
    | none => .error .InvalidModeState
    | some st =>
      match m.handle session env st with
      | .error e => .error e
      | .ok outcome => .ok (outcome.response m.encode)

/-- The first state, stored. -/
def onSessionStart : Except MacpError ModeResponse :=
  match m.start session with
  | .error e => .error e
  | .ok st => .ok (.PersistState (m.encode st))

/-- The mode as the kernel sees it. -/
def mode : Mode where
  onSessionStart := fun session _ => m.onSessionStart session
  onMessage := m.onMessage
  authorizeSender := m.authorize

variable {m}

/-! ### Accepted messages -/

/-- A message that was authorized and handled on the held state. -/
structure Took (m : StateMode σ) (s : Session) (env : Envelope) (st : σ) (outcome : Outcome σ) :
    Prop where
  authorized : m.authorize s env = .ok ()
  held : m.held s = some st
  handled : m.handle s env st = .ok outcome

variable {env : Envelope} {s : Session} {nowMs : Int64} {st : σ} {C : Session → Op → Prop}
  {b : Session.Bindings} {ops : List Op} {P : σ → Prop} {outcome : Outcome σ}

lemma onMessage_eq_ok {response : ModeResponse} (h : m.onMessage s env = .ok response) :
    ∃ st outcome, m.held s = some st ∧ m.handle s env st = .ok outcome
      ∧ response = outcome.response m.encode := by
  unfold onMessage at h
  split at h
  · cases h
  · split at h
    · cases h
    · rename_i st hst
      split at h
      · cases h
      · rename_i outcome hout
        cases h
        exact ⟨st, outcome, hst, hout, rfl⟩

lemma advance_eq (s : Session) (nowMs : Int64) : advance s m.mode nowMs = (s, .ok []) := by
  have hnone : nextSynthetic s m.mode nowMs = .ok none := by
    unfold nextSynthetic
    split
    · rfl
    · rfl
  rw [advance, advanceLoop_of_none hnone]

/-- The bytes an outcome leaves are those of its state. -/
lemma modeState_commit (s : Session) (env : Envelope) (outcome : Outcome σ) (nowMs : Int64) :
    (commit s env (outcome.response m.encode) nowMs).1.modeState = m.encode outcome.state := by
  unfold Outcome.response
  cases outcome.resolution <;> rfl

/-- **An accepted message was handled on the held state**, and its outcome is what the session
holds in bytes. -/
theorem step_accepted {state : SessionState} {synthesized : List Envelope}
    (h : (step s env m.mode nowMs).2 = .ok (.Accepted state synthesized)) :
    ∃ st outcome, m.Took s env st outcome ∧ synthesized = []
      ∧ (step s env m.mode nowMs).1 = (commit s env (outcome.response m.encode) nowMs).1
      ∧ (step s env m.mode nowMs).1.modeState = m.encode outcome.state := by
  have hcase := step_cases m.mode s env nowMs
  generalize step s env m.mode nowMs = r at hcase h ⊢
  cases hcase with
  | refused _ => cases h
  | duplicate _ => cases h
  | expired _ => cases h
  | notAdmitted _ _ => cases h
  | stuck _ _ _ => cases h
  | rejected _ _ _ _ => cases h
  | accepted _ hadm hadv hmsg =>
    rw [advance_eq] at hadv hmsg h ⊢
    obtain ⟨st, outcome, hst, hout, rfl⟩ := onMessage_eq_ok hmsg
    cases hadv
    cases h
    exact ⟨st, outcome, ⟨(admitEnvelope_eq_ok hadm).1, hst, hout⟩, rfl, rfl,
      modeState_commit s env outcome nowMs⟩

/-- A step that is not accepted leaves the bytes alone. -/
lemma step_not_accepted
    (h : ∀ state synthesized, (step s env m.mode nowMs).2 ≠ .ok (.Accepted state synthesized)) :
    (step s env m.mode nowMs).1.modeState = s.modeState := by
  have hcase := step_cases m.mode s env nowMs
  generalize step s env m.mode nowMs = r at hcase h ⊢
  cases hcase with
  | refused _ => rfl
  | duplicate _ => rfl
  | expired _ => exact s.expire_modeState
  | notAdmitted _ _ => rfl
  | stuck _ _ _ => rw [advance_eq]
  | rejected _ _ _ _ => rw [advance_eq]
  | accepted _ _ _ _ => exact absurd rfl (h _ _)

/-- **A call leaves the bytes alone or is an accepted message.** -/
theorem apply_cases (m : StateMode σ) (s : Session) (op : Op) :
    ((op.apply m.mode s).modeState = s.modeState ∧ op.accepted m.mode s = []) ∨
      ∃ env nowMs st outcome, op = .step env nowMs ∧ op.accepted m.mode s = [(s, env)]
        ∧ m.Took s env st outcome ∧ (op.apply m.mode s).modeState = m.encode outcome.state := by
  cases op with
  | step env nowMs =>
    by_cases hacc : ∃ state synthesized,
        (step s env m.mode nowMs).2 = .ok (.Accepted state synthesized)
    · obtain ⟨state, synthesized, hacc⟩ := hacc
      obtain ⟨st, outcome, htook, -, -, hbytes⟩ := step_accepted hacc
      refine .inr ⟨env, nowMs, st, outcome, rfl, ?_, htook, hbytes⟩
      rw [Op.accepted, hacc]
    · refine .inl ⟨step_not_accepted fun state synthesized h => hacc ⟨state, synthesized, h⟩, ?_⟩
      rw [Op.accepted]
      split
      · rename_i state synthesized h
        exact absurd ⟨state, synthesized, h⟩ hacc
      · rfl
  | advance nowMs => exact .inl ⟨by rw [Op.apply, advance_eq], rfl⟩
  | suspend nowMs => exact .inl ⟨s.suspend_modeState nowMs, rfl⟩
  | resume nowMs => exact .inl ⟨s.resume_modeState nowMs, rfl⟩
  | cancel =>
    refine .inl ⟨?_, rfl⟩
    rw [Op.apply, Session.cancel]
    split <;> rfl
  | expire => exact .inl ⟨s.expire_modeState, rfl⟩

/-- A call resolves a session only by a message whose outcome does. -/
lemma apply_resolved {op : Op} (h : (op.apply m.mode s).state = .Resolved) :
    s.state = .Resolved ∨ ∃ env nowMs st outcome resolution, op = .step env nowMs
      ∧ m.Took s env st outcome ∧ outcome.resolution = some resolution := by
  by_cases hbefore : s.state = .Resolved
  · exact .inl hbefore
  have hlive : ∀ s' : Session, s'.state = .Expired ∨ s'.state = s.state → s'.state ≠ .Resolved := by
    rintro s' (hs' | hs')
    · simp [hs']
    · rwa [hs']
  have hexpire : s.expire.1.state ≠ .Resolved := by
    refine hlive _ ?_
    unfold Session.expire
    split_ifs
    · exact .inr rfl
    · exact .inl rfl
  refine .inr ?_
  cases op with
  | step env nowMs =>
    have hcase := step_cases m.mode s env nowMs
    rw [Op.apply] at h
    by_cases hacc : ∃ state synthesized,
        (step s env m.mode nowMs).2 = .ok (.Accepted state synthesized)
    · obtain ⟨state, synthesized, hacc⟩ := hacc
      obtain ⟨st, outcome, htook, -, hcommit, -⟩ := step_accepted hacc
      rw [hcommit] at h
      cases hres : outcome.resolution with
      | none =>
        unfold Outcome.response at h
        rw [hres] at h
        exact absurd h hbefore
      | some resolution => exact ⟨env, nowMs, st, outcome, resolution, rfl, htook, hres⟩
    · refine absurd h ?_
      generalize step s env m.mode nowMs = r at hcase hacc ⊢
      cases hcase with
      | refused _ => exact hbefore
      | duplicate _ => exact hbefore
      | expired _ => exact hexpire
      | notAdmitted _ _ => exact hbefore
      | stuck _ _ _ => rwa [advance_eq]
      | rejected _ _ _ _ => rwa [advance_eq]
      | accepted _ _ _ _ => exact absurd ⟨_, _, rfl⟩ hacc
  | advance nowMs =>
    rw [Op.apply, advance_eq] at h
    exact absurd h hbefore
  | suspend nowMs =>
    rw [Op.apply, Session.suspend] at h
    split_ifs at h
    exact absurd h hbefore
  | resume nowMs =>
    rw [Op.apply, Session.resume] at h
    dsimp only at h
    split_ifs at h
    exact absurd h hbefore
  | cancel =>
    rw [Op.apply, Session.cancel] at h
    split_ifs at h
    exact absurd h hbefore
  | expire => exact absurd h hexpire

/-! ### Runs -/

lemma held_of_encoded (h : s.modeState = m.encode st) : m.held s = m.decode (m.encode st) := by
  rw [held, h, if_neg]
  simpa using m.encode_ne_nil st

lemma held_of_read (hread : m.decode (m.encode st) = some st) (h : s.modeState = m.encode st) :
    m.held s = some st := (held_of_encoded h).trans hread

/-- Every message a run gets accepted was handled on the session it found. -/
lemma took_of_accepted {e : Session × Envelope} (h : e ∈ acceptedSteps m.mode s ops) :
    ∃ st outcome, m.Took e.1 e.2 st outcome := by
  induction ops generalizing s with
  | nil => cases h
  | cons op ops ih =>
    rw [acceptedSteps, List.mem_append] at h
    rcases h with h | h
    · rcases apply_cases m s op with ⟨-, hnone⟩ | ⟨env, nowMs, st, outcome, -, hone, htook, -⟩
      · rw [hnone] at h
        cases h
      · rw [hone, List.mem_singleton] at h
        subst h
        exact ⟨st, outcome, htook⟩
    · exact ih h

/-- **What every accepted message that meets the condition keeps, and every reading back, a run
of such calls keeps**, together with what was accepted before. -/
theorem along_history {P : List (Session × Envelope) → σ → Prop}
    (hreread : ∀ history st st', m.decode (m.encode st) = some st' → P history st →
      P history st')
    (htook : ∀ history t env nowMs st outcome, t.bindings = b → C t (.step env nowMs) →
      m.Took t env st outcome → P history st → P (history ++ [(t, env)]) outcome.state)
    (history : List (Session × Envelope)) (hb : s.bindings = b)
    (hP : ∀ st, m.held s = some st → P history st) (h : Along m.mode C s ops) :
    ∀ st, m.held (run m.mode s ops) = some st →
      P (history ++ acceptedSteps m.mode s ops) st := by
  induction ops generalizing s history with
  | nil => simpa [acceptedSteps] using hP
  | cons op ops ih =>
    obtain ⟨hC, hrest⟩ := h
    have hb' : (op.apply m.mode s).bindings = b := (op.apply_moves s).bindings_eq.trans hb
    rw [run_cons, acceptedSteps, ← List.append_assoc]
    refine ih _ hb' ?_ hrest
    rcases apply_cases m s op with
      ⟨hsame, hnone⟩ | ⟨env, nowMs, st, outcome, rfl, hone, hstep, hbytes⟩
    · rwa [hnone, List.append_nil, held, hsame]
    · intro st' hst'
      rw [held_of_encoded hbytes] at hst'
      rw [hone]
      exact hreread _ _ _ hst'
        (htook history s env nowMs st outcome hb hC hstep (hP st hstep.held))

/-- The same without what was accepted before. -/
theorem along_holds
    (hP : ∀ st, m.held s = some st → P st)
    (hreread : ∀ st st', m.decode (m.encode st) = some st' → P st → P st')
    (htook : ∀ t env nowMs st outcome, t.bindings = s.bindings → C t (.step env nowMs) →
      m.Took t env st outcome → P st → P outcome.state) (h : Along m.mode C s ops) :
    ∀ st, m.held (run m.mode s ops) = some st → P st :=
  along_history (P := fun _ st => P st) (b := s.bindings)
    (fun _ st st' => hreread st st')
    (fun _ t env nowMs st outcome => htook t env nowMs st outcome) [] rfl hP h

/-- **What every accepted message and every reading back keep, a run keeps.** -/
theorem run_holds (hP : ∀ st, m.held s = some st → P st)
    (hreread : ∀ st st', m.decode (m.encode st) = some st' → P st → P st')
    (htook : ∀ t env st outcome, t.bindings = s.bindings → m.Took t env st outcome →
      P st → P outcome.state) (ops : List Op) :
    ∀ st, m.held (run m.mode s ops) = some st → P st :=
  along_holds hP hreread (fun t env _ st outcome hbind _ => htook t env st outcome hbind)
    (along_true s ops)

/-- **How the states of a run grow**: where every state is read back, what every accepted message
keeps the run keeps, and whatever order every message respects relates its ends. -/
theorem along_related {R : σ → σ → Prop} (hrefl : ∀ st, R st st)
    (htrans : ∀ st₁ st₂ st₃, R st₁ st₂ → R st₂ st₃ → R st₁ st₃)
    (hexact : ∀ st, P st → m.decode (m.encode st) = some st)
    (htook : ∀ t env nowMs st outcome, t.bindings = b → C t (.step env nowMs) →
      m.Took t env st outcome → P st → P outcome.state ∧ R st outcome.state) (hb : s.bindings = b)
    (hst : s.modeState = m.encode st) (hP : P st) (h : Along m.mode C s ops) :
    ∃ st', (run m.mode s ops).modeState = m.encode st' ∧ P st' ∧ R st st' := by
  induction ops generalizing s st with
  | nil => exact ⟨st, hst, hP, hrefl st⟩
  | cons op ops ih =>
    obtain ⟨hC, hrest⟩ := h
    have hb' : (op.apply m.mode s).bindings = b := (op.apply_moves s).bindings_eq.trans hb
    rw [run_cons]
    rcases apply_cases m s op with
      ⟨hsame, -⟩ | ⟨env, nowMs, st₁, outcome, rfl, -, hstep, hafter⟩
    · exact ih hb' (hsame.trans hst) hP hrest
    · obtain rfl := Option.some.inj (((held_of_encoded hst).trans (hexact st hP)).symm.trans
        hstep.held)
      obtain ⟨hP', hR⟩ := htook s env nowMs st outcome hb hC hstep hP
      obtain ⟨st', hst', hP'', hR'⟩ := ih hb' hafter hP' hrest
      exact ⟨st', hst', hP'', htrans _ _ _ hR hR'⟩

/-- A session begins with the bytes of the state its start gives. -/
lemma modeState_of_begun {prost : Prost} (h : SessionBegun prost m.mode s) :
    ∃ (bound : Session) (st : σ), bound.bindings = s.bindings ∧ m.start bound = .ok st
      ∧ s.modeState = m.encode st := by
  obtain ⟨bound, env, response, -, hresp, rfl⟩ := h.exists_start
  change m.onSessionStart bound = _ at hresp
  unfold onSessionStart at hresp
  split at hresp
  · cases hresp
  · rename_i st hst
    cases hresp
    exact ⟨bound, st, rfl, hst, rfl⟩

/-- Every session of the mode starts with the state `st`. -/
def StartsWith (m : StateMode σ) (st : σ) : Prop :=
  ∀ bound st', m.start bound = .ok st' → st' = st

lemma startsWith_of_guard {bad : Session → Bool} {e : MacpError}
    (h : ∀ bound, m.start bound = if bad bound then .error e else .ok st) : m.StartsWith st := by
  intro bound st' hstart
  rw [h] at hstart
  split_ifs at hstart
  exact (Except.ok.inj hstart).symm

lemma StartsWith.modeState {prost : Prost} (hm : m.StartsWith st)
    (h : SessionBegun prost m.mode s) : s.modeState = m.encode st := by
  obtain ⟨bound, st', -, hstart, hbytes⟩ := modeState_of_begun h
  rw [hbytes, hm bound st' hstart]

lemma StartsWith.held {prost : Prost} (hm : m.StartsWith st) (h : SessionBegun prost m.mode s)
    (hread : m.decode (m.encode st) = some st) : m.held s = some st :=
  held_of_read hread (hm.modeState h)

/-- A session begins open. -/
lemma open_of_begun {prost : Prost} (h : SessionBegun prost m.mode s) : s.state = .Open := by
  obtain ⟨bound, env, response, hbound, hresp, rfl⟩ := h.exists_start
  change m.onSessionStart bound = _ at hresp
  unfold onSessionStart at hresp
  split at hresp
  · cases hresp
  · cases hresp
    exact hbound.open_state

/-! ### Reading back -/

/-- What an accepted message wrote is read back. -/
def ReadsBack (m : StateMode σ) (s : Session) : Op → Prop
  | .step env nowMs => ∀ state synthesized st outcome,
      (step s env m.mode nowMs).2 = .ok (.Accepted state synthesized) → m.Took s env st outcome →
        m.decode (step s env m.mode nowMs).1.modeState = some outcome.state
  | _ => True

/-- Every state written in the run is read back, and at its end one is held. -/
structure Legible (m : StateMode σ) (s : Session) (ops : List Op) : Prop where
  reads : Along m.mode m.ReadsBack s ops
  held : ∃ st, m.held (run m.mode s ops) = some st

/-- The state a message was handled on, and its outcome, are determined. -/
lemma Took.unique {st' : σ} {outcome' : Outcome σ} (h : m.Took s env st outcome)
    (h' : m.Took s env st' outcome') : outcome' = outcome := by
  obtain rfl := Option.some.inj (h.held.symm.trans h'.held)
  exact Except.ok.inj (h'.handled.symm.trans h.handled)

/-- **A mode is legible along a run that keeps its states among those read back.** -/
theorem legible
    (hexact : ∀ st, P st → m.decode (m.encode st) = some st)
    (htook : ∀ t env nowMs st outcome, C t (.step env nowMs) → m.Took t env st outcome → P st →
      P outcome.state) (hP : ∃ st, s.modeState = m.encode st ∧ P st)
    (h : Along m.mode C s ops) : m.Legible s ops := by
  induction ops generalizing s with
  | nil =>
    obtain ⟨st, hbytes, hst⟩ := hP
    exact ⟨trivial, st, (held_of_encoded hbytes).trans (hexact st hst)⟩
  | cons op ops ih =>
    obtain ⟨hC, hrest⟩ := h
    obtain ⟨st, hbytes, hst⟩ := hP
    have hheld : m.held s = some st := (held_of_encoded hbytes).trans (hexact st hst)
    rcases apply_cases m s op with
      ⟨hsame, hnone⟩ | ⟨env, nowMs, st', outcome, rfl, -, hstep, hafter⟩
    · obtain ⟨hreads, hend⟩ := ih ⟨st, hsame.trans hbytes, hst⟩ hrest
      refine ⟨⟨?_, hreads⟩, hend⟩
      cases op with
      | step env nowMs =>
        intro state synthesized st' outcome hacc _
        rw [Op.accepted, hacc] at hnone
        cases hnone
      | _ => trivial
    · obtain rfl := Option.some.inj (hheld.symm.trans hstep.held)
      have hout : P outcome.state := htook s env nowMs st outcome hC hstep hst
      obtain ⟨hreads, hend⟩ := ih ⟨outcome.state, hafter, hout⟩ hrest
      refine ⟨⟨?_, hreads⟩, hend⟩
      intro state synthesized st' outcome' _ htook'
      rw [hstep.unique htook']
      change m.decode ((Op.step env nowMs).apply m.mode s).modeState = _
      rw [hafter, hexact _ hout]

/-! ### Following a message -/

lemma admitEnvelope_mode (hauth : m.authorize s env = .ok ()) :
    admitEnvelope s env m.mode = .ok () := by
  simp only [admitEnvelope, mode, hauth]

/-- A message that passes its checks is committed, and its outcome is held. -/
lemma step_eq (hheld : m.held s = some st) (hpre : checkPreconditions s env nowMs = .ok .Proceed)
    (hauth : m.authorize s env = .ok ()) (hscreen : m.screen env = .ok ())
    (hhandle : m.handle s env st = .ok outcome) :
    step s env m.mode nowMs = ((commit s env (outcome.response m.encode) nowMs).1,
      .ok (.Accepted (commit s env (outcome.response m.encode) nowMs).2 [])) := by
  have hmsg : dispatch s env m.mode nowMs = .ok (outcome.response m.encode) := by
    change m.onMessage s env = _
    simp only [onMessage, hscreen, hheld, hhandle]
  refine step_eq_accepted hpre (admitEnvelope_mode hauth) ?_ hmsg
  unfold nextSynthetic
  split <;> rfl

lemma step_eq_error {e : MacpError} (hheld : m.held s = some st)
    (hpre : checkPreconditions s env nowMs = .ok .Proceed) (hauth : m.authorize s env = .ok ())
    (hscreen : m.screen env = .ok ()) (hhandle : m.handle s env st = .error e) :
    (step s env m.mode nowMs).2 = .error e := by
  have hmsg : dispatch s env m.mode nowMs = .error e := by
    change m.onMessage s env = _
    simp only [onMessage, hscreen, hheld, hhandle]
  simp only [step, hpre, admitEnvelope_mode hauth, advance_eq, hmsg]

lemma held_commit (h : m.decode (m.encode outcome.state) = some st) :
    m.held (commit s env (outcome.response m.encode) nowMs).1 = some st :=
  (held_of_encoded (modeState_commit s env outcome nowMs)).trans h

lemma run_advance (s : Session) (nowMs : Int64) (ops : List Op) :
    run m.mode s (.advance nowMs :: ops) = run m.mode s ops := by
  rw [run_cons, Op.apply, advance_eq]

/-- The session after a message that left the state `st` and resolved nothing. -/
def after (m : StateMode σ) (s : Session) (env : Envelope) (st : σ) (nowMs : Int64) : Session :=
  (commit s env ((Outcome.persist st).response m.encode) nowMs).1

lemma modeState_after (s : Session) (env : Envelope) (st : σ) (nowMs : Int64) :
    (m.after s env st nowMs).modeState = m.encode st := rfl

lemma held_after (h : m.decode (m.encode st) = some st) :
    m.held (m.after s env st nowMs) = some st :=
  held_commit h

end StateMode

end MacpRuntime
