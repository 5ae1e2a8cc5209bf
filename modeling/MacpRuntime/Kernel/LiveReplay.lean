import MacpRuntime.Kernel.Atomicity
import MacpRuntime.Kernel.Lifecycle

/-!
Live runs against their replay: what a recorder writes down while it drives a session, and when
replaying that record rebuilds the session in every field.

* `Op.Faithful`: the calls whose record rebuilds what they did.  A call is unfaithful when it
  expires a suspended session (the `Expired` event leaves the pause in progress behind), when the
  mode emits an envelope with no id, or when the mode accepts a message after its own emission
  closed the session or revoked its sender;
* `replay_record_iff`: **the replay of a run succeeds and equals the live session exactly when every
  call of the run is faithful**.
-/

namespace MacpRuntime

open Std

variable {mode : Mode}

/-! ### The record of a run -/

/-- The envelopes emitted at a clock, also when the emission then fails. -/
def emitted (mode : Mode) (s : Session) (nowMs : Int64) : List Envelope :=
  (advanceLoop mode nowMs maxSyntheticPerStep s).2.1

/-- The events a step leaves in the record. -/
def stepEvents (mode : Mode) (s : Session) (env : Envelope) (nowMs : Int64) : List ReplayEvent :=
  match checkPreconditions s env nowMs, admitEnvelope s env mode with
  | .ok .Expired, _ => [.Expired]
  | .ok .Proceed, .ok _ =>
    (emitted mode s nowMs).map .Synthetic
      ++ (match (step s env mode nowMs).2 with
          | .ok (.Accepted _ _) => [.Message env nowMs]
          | _ => [])
  | _, _ => []

/-- The events a call leaves in the record: none when it had no effect. -/
def Op.events (mode : Mode) (s : Session) : Op → List ReplayEvent
  | .step env nowMs => stepEvents mode s env nowMs
  | .advance nowMs => (emitted mode s nowMs).map .Synthetic
  | .suspend nowMs => if s.state = .Open then [.Suspended nowMs] else []
  | .resume nowMs => if s.state = .Suspended then [.Resumed nowMs] else []
  | .cancel => if s.state.isTerminal then [] else [.Cancelled]
  | .expire => if s.state.isTerminal then [] else [.Expired]

/-- The record of a run. -/
def record (mode : Mode) : Session → List Op → List ReplayEvent
  | _, [] => []
  | s, op :: ops => op.events mode s ++ record mode (op.apply mode s) ops

/-- The steps whose record rebuilds what they did. -/
def StepFaithful (mode : Mode) (s : Session) (env : Envelope) (nowMs : Int64) : Prop :=
  (checkPreconditions s env nowMs = .ok .Expired → s.state ≠ .Suspended)
    ∧ (Admitted mode s env nowMs →
        (∀ e ∈ emitted mode s nowMs, e.messageId ≠ "")
          ∧ ∀ st em, (step s env mode nowMs).2 = .ok (.Accepted st em) →
              (advance s mode nowMs).1.state = .Open
                ∧ mode.authorizeSender (advance s mode nowMs).1 env = .ok ())

/-- The calls whose record rebuilds what they did. -/
def Op.Faithful (mode : Mode) (s : Session) : Op → Prop
  | .step env nowMs => StepFaithful mode s env nowMs
  | .advance nowMs => ∀ e ∈ emitted mode s nowMs, e.messageId ≠ ""
  | .expire => s.state ≠ .Suspended
  | .suspend _ | .resume _ | .cancel => True

/-- Every call of a run is faithful. -/
def RunFaithful (mode : Mode) : Session → List Op → Prop
  | _, [] => True
  | s, op :: ops => op.Faithful mode s ∧ RunFaithful mode (op.apply mode s) ops

/-! ### One envelope -/

/-- Taking the slot after the response is the same as before it. -/
lemma takeSlot_applyModeResponse {id : String} (hid : id ≠ "") (s : Session) (r : ModeResponse) :
    takeSlot (s.applyModeResponse r) id
      = { s with seenMessageIds := s.seenMessageIds.insert id }.applyModeResponse r := by
  have hne : id.isEmpty = false := by simpa using hid
  rw [takeSlot, hne]
  cases r <;> rfl

variable {nowMs : Int64} {s r : Session} {env : Envelope} {response : ModeResponse}
  {opts : ReplayOptions} {es : List ReplayEvent}

/-- An emission is rebuilt exactly, unless its envelope has no id. -/
lemma applyEnvelope_synthetic {syn : Synthetic} (hsyn : nextSynthetic s mode nowMs = .ok (some syn))
    (hid : syn.envelope.messageId ≠ "") :
    applyEnvelope s syn.envelope syn.envelope.timestampUnixMs false mode
      = .ok (commitSynthetic s syn).1 := by
  obtain ⟨hopen, _, _, hauth, hmsg⟩ := nextSynthetic_eq_some hsyn
  rw [applyEnvelope, if_neg (not_not.mpr hopen), hauth]
  dsimp only
  rw [hmsg]
  dsimp only
  rw [if_neg (by decide), takeSlot_applyModeResponse hid]
  rfl

/-- An accepted message is rebuilt exactly on an open session that authorizes its sender. -/
lemma applyEnvelope_commit (hopen : s.state = .Open) (hauth : mode.authorizeSender s env = .ok ())
    (hmsg : dispatch s env mode nowMs = .ok response) (hid : env.messageId ≠ "") :
    applyEnvelope s env nowMs true mode = .ok (commit s env response nowMs).1 := by
  have hne : env.messageId.isEmpty = false := by simpa using hid
  rw [applyEnvelope, if_neg (not_not.mpr hopen), hauth]
  dsimp only
  rw [dispatch] at hmsg
  rw [hmsg]
  dsimp only
  rw [if_pos rfl, takeSlot, hne]
  cases response <;> rfl

/-- A whole emission is rebuilt exactly. -/
lemma applyEvents_emitted (opts : ReplayOptions) (nowMs : Int64) (budget : ℕ) (s : Session)
    (hids : ∀ e ∈ (advanceLoop mode nowMs budget s).2.1, e.messageId ≠ "") :
    applyEvents mode opts s ((advanceLoop mode nowMs budget s).2.1.map .Synthetic)
      = .ok (advanceLoop mode nowMs budget s).1 := by
  induction budget generalizing s with
  | zero =>
    rcases hn : nextSynthetic s mode nowMs with e | _ | syn
    · rw [advanceLoop_of_error hn]; rfl
    · rw [advanceLoop_of_none hn]; rfl
    · rw [advanceLoop_zero hn]; rfl
  | succ n ih =>
    rcases hn : nextSynthetic s mode nowMs with e | _ | syn
    · rw [advanceLoop_of_error hn]; rfl
    · rw [advanceLoop_of_none hn]; rfl
    · rw [advanceLoop_succ hn] at hids ⊢
      have hhead := applyEnvelope_synthetic hn (hids _ List.mem_cons_self)
      have htail := ih (commitSynthetic s syn).1 fun e he => hids e (List.mem_cons_of_mem _ he)
      rw [applyEvents] at htail ⊢
      rw [List.map_cons, List.foldlM_cons, applyEvent, hhead, Except.ok_bind]
      exact htail

/-! ### Faithful calls are rebuilt -/

lemma applyEvents_append (opts : ReplayOptions) (s : Session) (es es' : List ReplayEvent) :
    applyEvents mode opts s (es ++ es')
      = (applyEvents mode opts s es) >>= fun s' => applyEvents mode opts s' es' :=
  List.foldlM_append

/-- Outside a pause, expiry is rebuilt exactly. -/
lemma applyEvents_expired (opts : ReplayOptions) (hcoh : s.Coherent) (hns : s.state ≠ .Suspended)
    (hlive : s.state.isTerminal = false) : applyEvents mode opts s [.Expired] = .ok s.expire.1 := by
  have hnone : s.suspendedAtMs = none := by
    by_contra h
    exact hns (hcoh.suspended_iff.mp (Option.isSome_iff_ne_none.mpr h))
  rw [Session.expire, if_neg (by simp [hlive]), ← hnone]
  rfl

/-- A faithful step is rebuilt. -/
lemma applyEvents_stepEvents (hcoh : s.Coherent) (hf : StepFaithful mode s env nowMs) :
    applyEvents mode {} s (stepEvents mode s env nowMs) = .ok (step s env mode nowMs).1 := by
  have hcase := step_cases mode s env nowMs
  unfold stepEvents
  unfold StepFaithful at hf
  obtain ⟨hexp, hadm⟩ := hf
  have hemit : Admitted mode s env nowMs →
      applyEvents mode {} s ((emitted mode s nowMs).map .Synthetic)
        = .ok (advance s mode nowMs).1 := fun h =>
    applyEvents_emitted {} nowMs maxSyntheticPerStep s (hadm h).1
  generalize step s env mode nowMs = r at hcase hadm ⊢
  cases hcase with
  | refused hpre =>
    simp only [hpre]
    rfl
  | duplicate hpre =>
    simp only [hpre]
    rfl
  | expired hpre =>
    simp only [hpre]
    exact applyEvents_expired {} hcoh (hexp hpre)
      (s.live_of_deadlinePassed (checkPreconditions_eq_expired hpre))
  | notAdmitted hpre hclient =>
    simp only [hpre, hclient]
    rfl
  | stuck hpre hclient _ =>
    simp only [hpre, hclient, List.append_nil]
    exact hemit ⟨hpre, hclient⟩
  | rejected hpre hclient _ _ =>
    simp only [hpre, hclient, List.append_nil]
    exact hemit ⟨hpre, hclient⟩
  | accepted hpre hclient _ hmsg =>
    simp only [hpre, hclient]
    obtain ⟨hopen, hauth⟩ := (hadm ⟨hpre, hclient⟩).2 _ _ rfl
    have hid : env.messageId ≠ "" := by
      simpa using checkEnvelopeShape_eq_ok (checkPreconditions_eq_proceed hpre).1
    rw [applyEvents_append, hemit ⟨hpre, hclient⟩, Except.ok_bind]
    have hmsg' := applyEnvelope_commit hopen hauth hmsg hid
    rw [applyEvents, List.foldlM_cons, applyEvent, hmsg']
    rfl

/-- A faithful call is rebuilt. -/
lemma applyEvents_events (hcoh : s.Coherent) {op : Op} (hf : op.Faithful mode s) :
    applyEvents mode {} s (op.events mode s) = .ok (op.apply mode s) := by
  cases op with
  | step env nowMs => exact applyEvents_stepEvents hcoh hf
  | advance nowMs => exact applyEvents_emitted {} nowMs maxSyntheticPerStep s hf
  | suspend nowMs =>
    rw [Op.events, Op.apply]
    split_ifs with h
    · rfl
    · rw [Session.suspend, if_pos h]
      rfl
  | resume nowMs =>
    rw [Op.events, Op.apply]
    split_ifs with h
    · rfl
    · rw [Session.resume, if_pos h]
      rfl
  | cancel =>
    rw [Op.events, Op.apply]
    split_ifs with h
    · rw [Session.cancel, if_pos h]
      rfl
    · rfl
  | expire =>
    rw [Op.events, Op.apply]
    split_ifs with h
    · rw [Session.expire, if_pos h]
      rfl
    · exact applyEvents_expired {} hcoh hf (by simpa using h)

/-! ### Unfaithful calls diverge for good -/

/-- Replay never takes the slot of an empty id. -/
lemma applyEvent_seen_empty {s' : Session} {e : ReplayEvent} (hno : "" ∉ s.seenMessageIds)
    (h : applyEvent mode opts s e = .ok s') : "" ∉ s'.seenMessageIds := by
  have hslot : ∀ (s : Session) (id : String), "" ∉ s.seenMessageIds →
      "" ∉ (takeSlot s id).seenMessageIds := by
    intro s id hs
    rw [takeSlot]
    split_ifs with hid
    · exact hs
    · rw [ExtTreeSet.mem_insert, Std.compare_eq_iff_eq]
      rintro (rfl | hmem)
      · exact hid rfl
      · exact hs hmem
  have henv : ∀ env at' credit, applyEnvelope s env at' credit mode = .ok s' →
      "" ∉ s'.seenMessageIds := by
    intro env at' credit h
    rw [applyEnvelope] at h
    split at h
    · cases h
      exact hslot _ _ hno
    · split at h
      · cases h
      · split at h
        · cases h
        · cases h
          refine hslot _ _ ?_
          split_ifs
          · exact (Session.applyModeResponse_seenMessageIds s _).symm ▸ hno
          · exact (Session.applyModeResponse_seenMessageIds s _).symm ▸ hno
  cases e with
  | Message env at' => exact henv _ _ _ h
  | Synthetic env => exact henv _ _ _ h
  | Suspended at' =>
    cases h
    rw [Session.suspend]
    split_ifs <;> exact hno
  | Resumed at' =>
    cases h
    rwa [Session.resume_seenMessageIds]
  | Cancelled =>
    cases h
    rw [Session.cancel]
    split_ifs <;> exact hno
  | Expired =>
    cases h
    exact hno

lemma applyEvents_seen_empty {s' : Session} (hno : "" ∉ s.seenMessageIds)
    (h : applyEvents mode opts s es = .ok s') : "" ∉ s'.seenMessageIds := by
  induction es generalizing s with
  | nil =>
    cases h
    exact hno
  | cons e es ih =>
    rw [applyEvents, List.foldlM_cons, Except.bind_eq_ok_iff] at h
    obtain ⟨s₁, he, hes⟩ := h
    exact ih (applyEvent_seen_empty hno he) hes

/-- The replayed session `r` can never again agree with the live one `l`: the live one is
terminal and differs, or has taken the slot of an empty id, which replay never does. -/
def Diverged (r l : Session) : Prop :=
  (l.state.isTerminal = true ∧ r ≠ l) ∨ ("" ∈ l.seenMessageIds ∧ "" ∉ r.seenMessageIds)

/-- A terminal session leaves no more events. -/
lemma record_of_terminal (h : s.state.isTerminal = true) (ops : List Op) :
    record mode s ops = [] := by
  have hne : s.state ≠ .Open ∧ s.state ≠ .Suspended := by
    constructor <;> rintro heq <;> rw [heq] at h <;> cases h
  induction ops with
  | nil => rfl
  | cons op ops ih =>
    rw [record, op.apply_of_terminal h, ih, List.append_nil]
    cases op with
    | step env nowMs =>
      rw [Op.events, stepEvents]
      split
      · rename_i hpre
        rw [s.live_of_deadlinePassed (checkPreconditions_eq_expired hpre)] at h
        cases h
      · rename_i hpre _
        exact absurd (checkPreconditions_eq_proceed hpre).2.2.2 hne.1
      · rfl
    | advance nowMs => rw [Op.events, emitted, advanceLoop_of_not_open hne.1]; rfl
    | suspend nowMs => rw [Op.events, if_neg hne.1]
    | resume nowMs => rw [Op.events, if_neg hne.2]
    | cancel => rw [Op.events, if_pos h]
    | expire => rw [Op.events, if_pos h]

/-- Divergence is permanent. -/
lemma Diverged.run_ne {r' l : Session} (h : Diverged r l) {ops : List Op}
    (hr : applyEvents mode {} r (record mode l ops) = .ok r') : r' ≠ run mode l ops := by
  rcases h with ⟨hterm, hne⟩ | ⟨hin, hout⟩
  · rw [record_of_terminal hterm] at hr
    cases hr
    rwa [run_of_terminal hterm]
  · rintro rfl
    refine applyEvents_seen_empty hout hr ?_
    exact run_invariant (P := fun s => "" ∈ s.seenMessageIds) (fun _ _ _ _ hm => hm.seen_mono) hin

/-- Expiring a suspended session leaves a pause in progress in the replay. -/
lemma diverged_expired (hcoh : s.Coherent) (hsusp : s.state = .Suspended) :
    Diverged { s with state := .Expired } s.expire.1 := by
  obtain ⟨a, ha⟩ := Option.isSome_iff_exists.mp (hcoh.suspended_iff.mpr hsusp)
  rw [Session.expire, if_neg (by rw [hsusp]; decide)]
  refine .inl ⟨rfl, fun heq => ?_⟩
  have := congrArg Session.suspendedAtMs heq
  rw [show ({ s with state := .Expired } : Session).suspendedAtMs = some a from ha] at this
  cases this

/-- An emission with an empty id takes a slot that replay does not. -/
lemma diverged_emitted (hno : "" ∉ s.seenMessageIds)
    (hem : ¬ ∀ e ∈ emitted mode s nowMs, e.messageId ≠ "") (hr : applyEvents mode {} s es = .ok r)
    {l : Session}
    (hl : ∀ id, id ∈ (advance s mode nowMs).1.seenMessageIds → id ∈ l.seenMessageIds) :
    Diverged r l := by
  push Not at hem
  obtain ⟨e, he, hid⟩ := hem
  refine .inr ⟨hl "" ?_, applyEvents_seen_empty hno hr⟩
  exact (advanceLoop_seen nowMs maxSyntheticPerStep s "").mpr (.inr ⟨e, he, hid⟩)

/-- A message committed to a session its own emission had closed: replay takes the slot but
does not credit the sender. -/
lemma diverged_closed (hres : s.state = .Resolved) (id : String) :
    Diverged (takeSlot s id) (commit s env response nowMs).1 := by
  have hterm : (commit s env response nowMs).1.state = .Resolved := by
    rcases Session.applyModeResponse_state (Session.recordParticipantActivity
        { s with seenMessageIds := s.seenMessageIds.insert env.messageId } env.sender nowMs)
        response with ⟨h, _⟩ | ⟨h, _⟩
    · exact h.trans hres
    · exact h
  refine .inl ⟨by rw [hterm]; rfl, fun heq => ?_⟩
  have hcount := congrArg (fun s => (s.participantMessageCounts[env.sender]?).getD 0) heq
  have hl : ((commit s env response nowMs).1.participantMessageCounts[env.sender]?).getD 0
      = (s.participantMessageCounts[env.sender]?).getD 0 + 1 := by
    have : (commit s env response nowMs).1.participantMessageCounts
        = s.participantMessageCounts.insert env.sender
            ((s.participantMessageCounts[env.sender]?).getD 0 + 1) := by
      cases response <;> rfl
    rw [this, ExtTreeMap.getElem?_insert_self, Option.getD_some]
  have hr : (takeSlot s id).participantMessageCounts = s.participantMessageCounts := by
    rw [takeSlot]
    split_ifs <;> rfl
  rw [hl, hr] at hcount
  exact absurd hcount (by simp)

/-- The commit of a message in an unfaithful way: replaying it on the session its emission
left fails, or takes a slot on a closed session. -/
lemma diverged_commit (hst : s.state = .Open ∨ s.state = .Resolved)
    (hbad : ¬ (s.state = .Open ∧ mode.authorizeSender s env = .ok ()))
    (hr : applyEvents mode {} s [.Message env nowMs] = .ok r) :
    Diverged r (commit s env response nowMs).1 := by
  rw [applyEvents, List.foldlM_cons, Except.bind_eq_ok_iff] at hr
  obtain ⟨r', hr, hnil⟩ := hr
  cases hnil
  rw [applyEvent, applyEnvelope] at hr
  rcases hst with hopen | hres
  · rw [if_neg (not_not.mpr hopen)] at hr
    split at hr
    · cases hr
    · rename_i hauth
      exact absurd ⟨hopen, hauth⟩ hbad
  · rw [if_pos (by rw [hres]; decide)] at hr
    cases hr
    exact diverged_closed hres _

/-- An unfaithful step diverges. -/
lemma diverged_step (hcoh : s.Coherent) (hno : "" ∉ s.seenMessageIds)
    (hnf : ¬ StepFaithful mode s env nowMs)
    (hr : applyEvents mode {} s (stepEvents mode s env nowMs) = .ok r) :
    Diverged r (step s env mode nowMs).1 := by
  have hcase := step_cases mode s env nowMs
  have hr' := hr
  unfold stepEvents at hr
  unfold StepFaithful at hnf
  generalize step s env mode nowMs = out at hcase hr hnf ⊢
  cases hcase with
  | refused hpre =>
    refine absurd ⟨fun h => ?_, fun h => ?_⟩ hnf
    · cases hpre.symm.trans h
    · cases hpre.symm.trans h.1
  | duplicate hpre =>
    refine absurd ⟨fun h => ?_, fun h => ?_⟩ hnf
    · cases hpre.symm.trans h
    · cases hpre.symm.trans h.1
  | expired hpre =>
    have hsusp : s.state = .Suspended := by
      by_contra hns
      refine hnf ⟨fun _ => hns, fun h => ?_⟩
      cases hpre.symm.trans h.1
    simp only [hpre] at hr
    cases hr
    exact diverged_expired hcoh hsusp
  | notAdmitted hpre hclient =>
    refine absurd ⟨fun h => ?_, fun h => ?_⟩ hnf
    · cases hpre.symm.trans h
    · cases hclient.symm.trans h.2
  | stuck hpre hclient _ =>
    refine diverged_emitted hno (fun hem => hnf ⟨fun h => ?_, fun _ => ⟨hem, ?_⟩⟩) hr'
      fun _ => id
    · cases hpre.symm.trans h
    · rintro st em ⟨⟩
  | rejected hpre hclient _ _ =>
    refine diverged_emitted hno (fun hem => hnf ⟨fun h => ?_, fun _ => ⟨hem, ?_⟩⟩) hr'
      fun _ => id
    · cases hpre.symm.trans h
    · rintro st em ⟨⟩
  | @accepted em response hpre hclient _ hmsg =>
    by_cases hids : ∀ e ∈ emitted mode s nowMs, e.messageId ≠ ""
    · -- the emission is rebuilt, so the message itself is what diverges
      simp only [hpre, hclient] at hr
      rw [applyEvents_append, Except.bind_eq_ok_iff] at hr
      obtain ⟨r₁, hr₁, hr⟩ := hr
      cases hr₁.symm.trans (applyEvents_emitted {} nowMs maxSyntheticPerStep s hids)
      refine diverged_commit (advance_open_or_resolved mode
        (checkPreconditions_eq_proceed hpre).2.2.2 nowMs) (fun hgood => ?_) hr
      refine hnf ⟨fun h => ?_, fun _ => ⟨hids, fun _ _ _ => hgood⟩⟩
      cases hpre.symm.trans h
    · refine diverged_emitted hno hids hr' fun id hmem => ?_
      rw [commit_seenMessageIds]
      exact ExtTreeSet.mem_insert.mpr (.inr hmem)

/-- An unfaithful call diverges. -/
lemma diverged_events (hcoh : s.Coherent) (hno : "" ∉ s.seenMessageIds) {op : Op}
    (hnf : ¬ op.Faithful mode s) (hr : applyEvents mode {} s (op.events mode s) = .ok r) :
    Diverged r (op.apply mode s) := by
  cases op with
  | step env nowMs => exact diverged_step hcoh hno hnf hr
  | advance nowMs => exact diverged_emitted hno hnf hr fun _ => id
  | suspend nowMs => exact absurd trivial hnf
  | resume nowMs => exact absurd trivial hnf
  | cancel => exact absurd trivial hnf
  | expire =>
    have hsusp : s.state = .Suspended := not_not.mp hnf
    rw [Op.events, if_neg (by rw [hsusp]; decide)] at hr
    cases hr
    exact diverged_expired hcoh hsusp

/-! ### Whole runs -/

/-- The record of a run rebuilds it exactly when every call is faithful. -/
lemma applyEvents_record_iff (hcoh : s.Coherent) (hno : "" ∉ s.seenMessageIds) (ops : List Op) :
    applyEvents mode {} s (record mode s ops) = .ok (run mode s ops) ↔ RunFaithful mode s ops := by
  induction ops generalizing s with
  | nil => exact ⟨fun _ => trivial, fun _ => rfl⟩
  | cons op ops ih =>
    rw [record, run_cons, applyEvents_append, RunFaithful]
    by_cases hf : op.Faithful mode s
    · have hev := applyEvents_events hcoh hf
      have hcoh' : (op.apply mode s).Coherent :=
        (op.apply_moves s).invariant (fun _ _ hm => hm.coherent) hcoh
      rw [hev, Except.ok_bind, ih hcoh' (applyEvents_seen_empty hno hev)]
      exact ⟨fun h => ⟨hf, h⟩, fun h => h.2⟩
    · refine ⟨fun h => ?_, fun h => absurd h.1 hf⟩
      obtain ⟨r, hr, hrun⟩ := Except.bind_eq_ok_iff.mp h
      exact absurd rfl ((diverged_events hcoh hno hf hr).run_ne hrun)

/-- A session just accepted has taken the slot of its start, which has an id. -/
lemma seen_empty_of_accept {prost : Prost} {policy : Option PolicyDefinition} {opts : StartOptions}
    (h : acceptSessionStart prost env nowMs mode policy opts = .ok s) : "" ∉ s.seenMessageIds := by
  obtain ⟨v, hv, hacc⟩ := acceptSessionStart_eq_ok h
  have hid := checkEnvelopeShape_eq_ok (validateSessionStart_eq_ok hv).1
  obtain ⟨version, response, _, _, _, rfl⟩ := ValidatedStart.accept_eq_ok hacc
  rw [Session.applyModeResponse_seenMessageIds, ExtTreeSet.mem_insert, Std.compare_eq_iff_eq]
  rintro (heq | hmem)
  · rw [heq] at hid
    cases hid
  · exact absurd hmem ExtTreeSet.not_mem_empty

/-- **Live/replay equality**: for any mode, any start accepted with the default strictness and
any run of calls, replaying the record with the default options succeeds and returns the live
session, in every field, exactly when every call of the run is faithful. -/
theorem replay_record_iff {prost : Prost} {env : Envelope} {nowMs : Int64}
    {policy : Option PolicyDefinition} {opts : StartOptions} {v : ValidatedStart} {s : Session}
    (hstrict : opts.strict = none) (hv : validateSessionStart prost env nowMs opts = .ok v)
    (hs : acceptSessionStart prost env nowMs mode policy opts = .ok s) (ops : List Op) :
    replay prost (.fromSession env s v.boundModeVersion) (record mode s ops) mode {}
        = .ok (run mode s ops)
      ↔ RunFaithful mode s ops := by
  obtain ⟨v', hv', hacc⟩ := acceptSessionStart_eq_ok hs
  cases hv.symm.trans hv'
  rw [replay, replayStart_fromSession hstrict hv hacc, Except.ok_bind]
  exact applyEvents_record_iff (SessionBegun.accepted hs).coherent (seen_empty_of_accept hs) ops

/-- A message, a pause and a cancellation of the sample session are rebuilt. -/
theorem replay_record_iff_sample :
    replay protobuf (.fromSession Passthrough.sampleStart Passthrough.sampleSession none)
        (record (Passthrough.mode protobuf []) Passthrough.sampleSession
          [.step (Passthrough.sampleEnvelope "Msg" "m1" "b" [1]) 10, .suspend 12, .resume 15,
            .cancel])
        (Passthrough.mode protobuf []) {}
      = .ok (run (Passthrough.mode protobuf []) Passthrough.sampleSession
          [.step (Passthrough.sampleEnvelope "Msg" "m1" "b" [1]) 10, .suspend 12, .resume 15,
            .cancel]) := by
  refine (replay_record_iff rfl (v := ⟨⟨"", ["a", "b"], "1", "1", "", 1000, "", ∅, [], 0⟩,
    none, 1000, 1005, maxSuspendMs, 5⟩) rfl Passthrough.sampleStart_accepted _).mpr ?_
  refine ⟨⟨fun h => ?_, fun _ => ⟨fun e he => ?_, fun _ _ _ => ⟨rfl, rfl⟩⟩⟩, trivial, trivial,
    trivial, trivial⟩
  · cases h
  · cases he

/-- A suspended session that is expired: the live session clears the pause in progress, the
replayed one keeps it. -/
theorem replay_expired_diverges :
    acceptSessionStart protobuf Passthrough.sampleStart 5 (Passthrough.mode protobuf []) none {}
        = .ok Passthrough.sampleSession
      ∧ record (Passthrough.mode protobuf []) Passthrough.sampleSession [.suspend 7, .expire]
          = [.Suspended 7, .Expired]
      ∧ (run (Passthrough.mode protobuf []) Passthrough.sampleSession
          [.suspend 7, .expire]).suspendedAtMs = none
      ∧ ∃ r, replay protobuf (.fromSession Passthrough.sampleStart Passthrough.sampleSession none)
            [.Suspended 7, .Expired] (Passthrough.mode protobuf []) {} = .ok r
          ∧ r.suspendedAtMs = some 7 :=
  ⟨Passthrough.sampleStart_accepted, rfl, rfl,
    { Passthrough.sampleSession with state := .Expired, suspendedAtMs := some 7 }, rfl, rfl⟩

end MacpRuntime
