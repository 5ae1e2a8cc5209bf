import MacpRuntime.WhatIf.Report

/-!
The two replays of a what-if run in lock step.

* `Tracks`: a relation of the two sessions that fixes what is reported, and that one event keeps
  when both replays end it in one state, so that it holds along a history without a divergence;
* `Echoes`: a mode that resolves with the payload of the resolving envelope.  State and resolution
  then track each other, whatever the mode states are;
* `Indifferent`: a mode that accepts under one policy what it accepts under another.  The two
  sessions then stay equal but for the policy.
-/

namespace MacpRuntime

/-- The resolution a mode's response carries. -/
def ModeResponse.resolution? : ModeResponse → Option Bytes
  | .Resolve resolution => some resolution
  | .PersistAndResolve _ resolution => some resolution
  | _ => none

/-- The session under another policy. -/
def Session.under (s : Session) (policy : Option PolicyDefinition) : Session :=
  { s with policyDefinition := policy }

namespace WhatIf

variable {mode : Mode} {opts : ReplayOptions}

/-! ### Tracking -/

/-- Sessions that are related look the same, and one event keeps them related when both replays
take it and end it in one state. -/
structure Tracks (mode : Mode) (opts : ReplayOptions) (R : Session → Session → Prop) : Prop where
  state : ∀ {s t}, R s t → s.state = t.state
  resolution : ∀ {s t}, R s t → s.resolution = t.resolution
  step : ∀ {s t s' t' event}, R s t → applyEvent mode opts s event = .ok s' →
    applyEvent mode opts t event = .ok t' → s'.state = t'.state → R s' t'

/-- Both replays stand at related sessions, resolved by the same envelope. -/
structure Progress.Together (R : Session → Session → Prop) (progress : Progress) : Prop where
  sessions : ∃ cand, progress.candidate = some cand ∧ R progress.recorded cand
  resolvedBy : progress.recordedBy = progress.candidateBy

/-- Nothing noted so far diverges. -/
def Progress.Agrees (progress : Progress) : Prop :=
  ∀ entry ∈ progress.entries, entry.diverges = false

variable {progress progress' : Progress} {event : ReplayEvent} {s s' : Session}
  {R : Session → Session → Prop} {index : ℕ} {events : List ReplayEvent} {r : ModeResponse}
  {acceptedAtMs : Int64}

lemma firstDivergence_eq_none_iff {start : RecordedStart} {candidate : PolicyDefinition} :
    (progress.report start candidate).firstDivergence = none ↔ progress.Agrees := by
  simp only [Progress.report, Option.map_eq_none_iff, List.find?_eq_none, Progress.Agrees,
    Bool.not_eq_true]

/-- An envelope changes no state of a session that is not open. -/
lemma applyEvent_state_of_not_open (henvelope : event.envelope?.isSome = true)
    (hstate : s.state ≠ .Open) (h : applyEvent mode opts s event = .ok s') :
    s'.state = s.state := by
  have htake (env : Envelope) : (takeSlot s env.messageId).state = s.state := by
    unfold takeSlot
    split_ifs <;> rfl
  cases event with
  | Message env acceptedAtMs =>
    rw [applyEvent, applyEnvelope, if_pos hstate] at h
    cases h
    exact htake env
  | Synthetic env =>
    rw [applyEvent, applyEnvelope, if_pos hstate] at h
    cases h
    exact htake env
  | _ => cases henvelope

/-- Events that are classified alike end in one state. -/
lemma state_eq_of_classify_eq {t t' : Session} (hstate : s.state = t.state)
    (hs : applyEvent mode opts s event = .ok s') (ht : applyEvent mode opts t event = .ok t')
    (h : classify s event s' = classify t event t') : s'.state = t'.state := by
  unfold classify at h
  rw [hstate] at h
  split_ifs at h with hnot
  · rw [Bool.and_eq_true, bne_iff_ne] at hnot
    rw [applyEvent_state_of_not_open hnot.1 (hstate ▸ hnot.2) hs,
      applyEvent_state_of_not_open hnot.1 hnot.2 ht, hstate]
  · exact EntryOutcome.Applied.inj h

lemma classify_ne_refused (s : Session) (event : ReplayEvent) (s' : Session) (e : MacpError) :
    classify s event s' ≠ .refused e := by
  unfold classify EntryOutcome.refused
  split_ifs <;> simp

lemma noteResolution_congr {t : Session} (h : s.state = t.state) (outcome : EntryOutcome)
    (point : HistoryPoint) (envelope : Option Envelope) (resolvedBy : Option ResolvedBy) :
    noteResolution s outcome point envelope resolvedBy
      = noteResolution t outcome point envelope resolvedBy := by
  unfold noteResolution
  rw [h]

section Candidate

variable {index : ℕ} {event : ReplayEvent} {progress : Progress} {session cand : Session}

/-- The candidate's side of an event it takes. -/
lemma seen_of_ok {cand' : Session} (hcand : progress.candidate = some cand)
    (h : applyEvent mode opts cand event = .ok cand') :
    progress.seen mode opts index event session
      = (classify cand event cand', { progress.record index event session with
          candidate := some cand'
          candidateBy := noteResolution cand' (classify cand event cand') (.Event index)
            event.envelope? progress.candidateBy }) := by
  unfold Progress.seen observeCandidate Progress.record
  simp only [hcand, step_of_ok h]

/-- The candidate's side of an event it refuses. -/
lemma seen_of_error {e : MacpError} (hcand : progress.candidate = some cand)
    (h : applyEvent mode opts cand event = .error e) :
    (progress.seen mode opts index event session).1 = .refused e := by
  unfold Progress.seen observeCandidate Progress.record
  simp only [hcand, step_of_error h]

end Candidate

/-- An observation that diverges from nothing keeps the two replays together. -/
lemma Tracks.observe (hR : Tracks mode opts R) (h : progress.Together R)
    (hobserve : observe mode opts index event progress = .ok progress')
    (hagrees : progress'.Agrees) : progress'.Together R := by
  obtain ⟨⟨cand, hcand, hrel⟩, hby⟩ := h
  obtain ⟨session, hs, rfl⟩ := observe_eq_ok hobserve
  have hentry := hagrees _ (List.mem_append_right _ (List.mem_singleton_self _))
  simp only [EntryDiff.diverges, entryOf, bne_eq_false_iff_eq] at hentry
  cases ht : applyEvent mode opts cand event with
  | error e =>
    rw [seen_of_error hcand ht] at hentry
    exact absurd hentry (classify_ne_refused _ _ _ _)
  | ok cand' =>
    rw [seen_of_ok hcand ht] at hentry ⊢
    have hstate := state_eq_of_classify_eq (hR.state hrel) hs ht hentry
    refine ⟨⟨cand', rfl, hR.step hrel hs ht hstate⟩, ?_⟩
    change noteResolution session (classify progress.recorded event session) _ _
      progress.recordedBy = noteResolution cand' (classify cand event cand') _ _ _
    rw [hby, hentry, noteResolution_congr hstate]

/-- The entries noted so far stay in front. -/
lemma observe_entries (h : WhatIf.observe mode opts index event progress = .ok progress') :
    progress.entries <+: progress'.entries := by
  obtain ⟨session, -, rfl⟩ := observe_eq_ok h
  exact List.prefix_append _ _

lemma observeAll_entries (h : observeAll mode opts index events progress = .ok progress') :
    progress.entries <+: progress'.entries :=
  observeAll_invariant (P := fun p => progress.entries <+: p.entries)
    (fun hobserve hP => hP.trans (observe_entries hobserve)) h List.prefix_rfl

/-- Along a history on which nothing diverges, the two replays stay together. -/
lemma Tracks.observeAll (hR : Tracks mode opts R) (h : progress.Together R)
    (hobserve : WhatIf.observeAll mode opts index events progress = .ok progress')
    (hagrees : progress'.Agrees) : progress'.Together R := by
  refine observeAll_invariant (P := fun p => p.Agrees → p.Together R) ?_ hobserve (fun _ => h)
    hagrees
  intro index event p p' hnext hp hagrees
  have hsub := (observe_entries hnext).subset
  exact hR.observe (hp fun entry hentry => hagrees entry (hsub hentry)) hnext hagrees

/-- Replays that are together have one outcome. -/
lemma Tracks.outcome_eq (hR : Tracks mode opts R) (h : progress.Together R) (start : RecordedStart)
    (candidate : PolicyDefinition) :
    (progress.report start candidate).recorded = (progress.report start candidate).candidate := by
  obtain ⟨⟨cand, hcand, hrel⟩, hby⟩ := h
  simp only [Progress.report, Outcome.of, hcand, Option.map_some, Option.bind_some, hby,
    hR.state hrel, hR.resolution hrel]

/-! ### Modes that resolve with the payload -/

/-- A mode that does not resolve at the start, and later with the payload of the resolving
envelope. -/
structure Echoes (mode : Mode) : Prop where
  start : ∀ {s env response}, mode.onSessionStart s env = .ok response →
    response.resolution? = none
  message : ∀ {s env ctx response resolution}, mode.onMessageAt s env ctx = .ok response →
    response.resolution? = some resolution → resolution = env.payload

lemma applyModeResponse_of_none (h : r.resolution? = none) (s : Session) :
    (s.applyModeResponse r).state = s.state
      ∧ (s.applyModeResponse r).resolution = s.resolution := by
  cases r with
  | Resolve _ => cases h
  | PersistAndResolve _ _ => cases h
  | _ => exact ⟨rfl, rfl⟩

lemma applyModeResponse_of_some {resolution : Bytes} (h : r.resolution? = some resolution)
    (s : Session) :
    (s.applyModeResponse r).state = .Resolved
      ∧ (s.applyModeResponse r).resolution = some resolution := by
  cases r with
  | Resolve _ =>
    cases h
    exact ⟨rfl, rfl⟩
  | PersistAndResolve _ _ =>
    cases h
    exact ⟨rfl, rfl⟩
  | _ => cases h

/-- The bookkeeping after a response touches neither the state nor the resolution. -/
lemma bookkeeping_eq (s : Session) (credit : Bool) (env : Envelope) (acceptedAtMs : Int64) :
    let s' := takeSlot (if credit then s.recordParticipantActivity env.sender acceptedAtMs else s)
      env.messageId
    s'.state = s.state ∧ s'.resolution = s.resolution := by
  unfold takeSlot
  split_ifs <;> exact ⟨rfl, rfl⟩

/-- The resolution an envelope leaves, from the states around it. -/
def resolutionAfter (env : Envelope) (s s' : Session) : Option Bytes :=
  if s.state = .Open ∧ s'.state = .Resolved then some env.payload else s.resolution

lemma Echoes.applyEnvelope (h : Echoes mode) {env : Envelope} {credit : Bool}
    (happly : applyEnvelope s env acceptedAtMs credit mode = .ok s') :
    s'.resolution = resolutionAfter env s s' := by
  unfold MacpRuntime.applyEnvelope at happly
  unfold resolutionAfter
  by_cases hopen : s.state = .Open
  · rw [if_neg (not_not.mpr hopen)] at happly
    split at happly
    · cases happly
    · split at happly
      · cases happly
      · rename_i response hresponse
        cases happly
        obtain ⟨hstate, hresolution⟩ :=
          bookkeeping_eq (s.applyModeResponse response) credit env acceptedAtMs
        rw [hstate, hresolution]
        cases hres : response.resolution? with
        | none =>
          obtain ⟨h1, h2⟩ := applyModeResponse_of_none hres s
          rw [h1, h2, if_neg]
          rintro ⟨_, hresolved⟩
          rw [hopen] at hresolved
          cases hresolved
        | some resolution =>
          obtain ⟨h1, h2⟩ := applyModeResponse_of_some hres s
          rw [h1, h2, if_pos ⟨hopen, rfl⟩, h.message hresponse hres]
  · rw [if_pos hopen] at happly
    cases happly
    rw [if_neg fun h => hopen h.1]
    unfold takeSlot
    split_ifs <;> rfl

/-- The lifecycle events touch no resolution. -/
lemma applyEvent_resolution (henvelope : event.envelope? = none)
    (h : applyEvent mode opts s event = .ok s') : s'.resolution = s.resolution := by
  cases event with
  | Message _ _ => cases henvelope
  | Synthetic _ => cases henvelope
  | Suspended atMs =>
    cases h
    rw [Session.suspend]
    split_ifs <;> rfl
  | Resumed atMs =>
    cases h
    rw [Session.resume]
    dsimp only
    split_ifs <;> rfl
  | Cancelled =>
    cases h
    rw [Session.cancel]
    split_ifs <;> rfl
  | Expired =>
    cases h
    rfl

/-- State and resolution of two sessions of such a mode track each other. -/
lemma Echoes.tracks (h : Echoes mode) :
    Tracks mode opts fun s t => s.state = t.state ∧ s.resolution = t.resolution where
  state := fun hR => hR.1
  resolution := fun hR => hR.2
  step := by
    rintro s t s' t' event ⟨hstate, hresolution⟩ hs ht hstate'
    refine ⟨hstate', ?_⟩
    cases event with
    | Message env acceptedAtMs =>
      rw [h.applyEnvelope hs, h.applyEnvelope ht, resolutionAfter, resolutionAfter, hstate,
        hresolution, hstate']
    | Synthetic env =>
      rw [h.applyEnvelope hs, h.applyEnvelope ht, resolutionAfter, resolutionAfter, hstate,
        hresolution, hstate']
    | _ => rw [applyEvent_resolution rfl hs, applyEvent_resolution rfl ht, hresolution]

/-! ### Modes that are indifferent to the policy -/

/-- What the mode accepts under one policy it accepts under the other, with the same response.
The candidate's start may bind another policy version. -/
structure Indifferent (mode : Mode) (p q : Option PolicyDefinition) : Prop where
  start : ∀ {s env response} (version : String), s.policyDefinition = p →
    mode.onSessionStart s env = .ok response →
    mode.onSessionStart { s with policyDefinition := q, policyVersion := version } env
      = .ok response
  authorize : ∀ {s env}, s.policyDefinition = p → mode.authorizeSender s env = .ok () →
    mode.authorizeSender (s.under q) env = .ok ()
  message : ∀ {s env ctx response}, s.policyDefinition = p →
    mode.onMessageAt s env ctx = .ok response → mode.onMessageAt (s.under q) env ctx = .ok response

section Under

variable (s : Session) (q : Option PolicyDefinition)

lemma applyModeResponse_under (r : ModeResponse) :
    (s.under q).applyModeResponse r = (s.applyModeResponse r).under q := by
  cases r <;> rfl

lemma takeSlot_under (messageId : String) :
    takeSlot (s.under q) messageId = (takeSlot s messageId).under q := by
  unfold takeSlot
  split_ifs <;> rfl

lemma takeSlot_policy (messageId : String) :
    (takeSlot s messageId).policyDefinition = s.policyDefinition := by
  unfold takeSlot
  split_ifs <;> rfl

lemma under_state : (s.under q).state = s.state := rfl

/-- Calls that branch on what the policy does not touch. -/
lemma ite_under {c : Prop} [Decidable c] {a b a' b' : Session × Except MacpError Unit}
    (ha : a.1 = a'.1.under q) (hb : b.1 = b'.1.under q) :
    (if c then a else b).1 = (if c then a' else b').1.under q := by
  split_ifs
  · exact ha
  · exact hb

variable (atMs : Int64)

lemma suspend_under : ((s.under q).suspend atMs).1 = (s.suspend atMs).1.under q := by
  rw [Session.suspend, Session.suspend]
  exact ite_under q rfl rfl

lemma cancel_under : (s.under q).cancel.1 = s.cancel.1.under q := by
  rw [Session.cancel, Session.cancel]
  exact ite_under q rfl rfl

lemma resume_under : ((s.under q).resume atMs).1 = (s.resume atMs).1.under q := by
  rw [Session.resume, Session.resume]
  exact ite_under q rfl (ite_under q rfl (ite_under q rfl rfl))

/-- The lifecycle calls keep the policy. -/
lemma suspend_policy : (s.suspend atMs).1.policyDefinition = s.policyDefinition := by
  rw [Session.suspend]
  split_ifs <;> rfl

lemma cancel_policy : s.cancel.1.policyDefinition = s.policyDefinition := by
  rw [Session.cancel]
  split_ifs <;> rfl

lemma resume_policy : (s.resume atMs).1.policyDefinition = s.policyDefinition :=
  congrArg (·.policyDefinition) (s.resume_bindings atMs)

end Under

variable {p q : Option PolicyDefinition}

lemma Indifferent.applyEnvelope_under (h : Indifferent mode p q) {env : Envelope} {credit : Bool}
    (hp : s.policyDefinition = p)
    (happly : MacpRuntime.applyEnvelope s env acceptedAtMs credit mode = .ok s') :
    MacpRuntime.applyEnvelope (s.under q) env acceptedAtMs credit mode = .ok (s'.under q)
      ∧ s'.policyDefinition = p := by
  unfold MacpRuntime.applyEnvelope at happly ⊢
  rw [under_state]
  by_cases hopen : s.state ≠ .Open
  · rw [if_pos hopen] at happly ⊢
    cases happly
    rw [takeSlot_under, takeSlot_policy]
    exact ⟨rfl, hp⟩
  · rw [if_neg hopen] at happly ⊢
    split at happly
    · cases happly
    · rename_i hsender
      split at happly
      · cases happly
      · rename_i response hresponse
        cases happly
        rw [h.authorize hp hsender]
        dsimp only
        rw [h.message hp hresponse]
        dsimp only
        rw [applyModeResponse_under, takeSlot_policy, ← takeSlot_under]
        have hbind := congrArg (·.policyDefinition)
          (Session.applyModeResponse_bindings s response)
        cases credit <;> exact ⟨rfl, hbind.trans hp⟩

/-- An event that is applied is applied under the other policy, to the same session but for the
policy. -/
lemma Indifferent.applyEvent_under (h : Indifferent mode p q) (hp : s.policyDefinition = p)
    (happly : applyEvent mode opts s event = .ok s') :
    applyEvent mode opts (s.under q) event = .ok (s'.under q) ∧ s'.policyDefinition = p := by
  cases event with
  | Message env acceptedAtMs => exact h.applyEnvelope_under hp happly
  | Synthetic env => exact h.applyEnvelope_under hp happly
  | Suspended atMs =>
    cases happly
    exact ⟨congrArg Except.ok (suspend_under s q atMs), (suspend_policy s atMs).trans hp⟩
  | Resumed atMs =>
    cases happly
    exact ⟨congrArg Except.ok (resume_under s q atMs), (resume_policy s atMs).trans hp⟩
  | Cancelled =>
    cases happly
    exact ⟨congrArg Except.ok (cancel_under s q), (cancel_policy s).trans hp⟩
  | Expired =>
    cases happly
    exact ⟨rfl, hp⟩

/-- The sessions of such a mode stay equal but for the policy. -/
lemma Indifferent.tracks (h : Indifferent mode p q) :
    Tracks mode opts fun s t => s.policyDefinition = p ∧ t = s.under q where
  state := by
    rintro s t ⟨_, rfl⟩
    rfl
  resolution := by
    rintro s t ⟨_, rfl⟩
    rfl
  step := by
    rintro s t s' t' event ⟨hp, rfl⟩ hs ht _
    obtain ⟨hunder, hp'⟩ := h.applyEvent_under hp hs
    rw [hunder] at ht
    exact ⟨hp', (Except.ok.inj ht).symm⟩

/-- Nothing has diverged and nothing was denied, and the sessions differ in the policy only. -/
structure Progress.Parallel (p q : Option PolicyDefinition) (progress : Progress) : Prop where
  policy : progress.recorded.policyDefinition = p
  candidate : progress.candidate = some (progress.recorded.under q)
  denials : progress.denials = []
  agrees : progress.Agrees

lemma Indifferent.observe (h : Indifferent mode p q) (hpar : progress.Parallel p q)
    (hobserve : WhatIf.observe mode opts index event progress = .ok progress') :
    progress'.Parallel p q := by
  obtain ⟨hp, hcand, hdenials, hagrees⟩ := hpar
  obtain ⟨session, hs, rfl⟩ := observe_eq_ok hobserve
  obtain ⟨hunder, hp'⟩ := h.applyEvent_under hp hs
  rw [seen_of_ok hcand hunder]
  refine ⟨hp', rfl, hdenials, fun entry hentry => ?_⟩
  rcases List.mem_append.mp hentry with hold | hnew
  · exact hagrees entry hold
  · rw [List.mem_singleton] at hnew
    subst hnew
    exact bne_eq_false_iff_eq.mpr rfl

lemma Indifferent.observeAll (h : Indifferent mode p q) (hpar : progress.Parallel p q)
    (hobserve : WhatIf.observeAll mode opts index events progress = .ok progress') :
    progress'.Parallel p q :=
  observeAll_invariant (fun hnext hp => h.observe hp hnext) hobserve hpar

/-! ### The beginning -/

section Start

variable {prost : Prost} {start : RecordedStart} {candidate : PolicyDefinition}
  {recorded : Session}

/-- Where the start is taken under the candidate too, the replays begin together. -/
lemma Echoes.together_begin (h : Echoes mode)
    (hstart : replayStart prost start mode = .ok recorded)
    (hagrees : (begin prost start mode candidate recorded).Agrees) :
    (begin prost start mode candidate recorded).Together
      fun s t => s.state = t.state ∧ s.resolution = t.resolution := by
  have hbegun {s : Session} {start : RecordedStart}
      (hs : replayStart prost start mode = .ok s) : s.state = .Open ∧ s.resolution = none := by
    obtain ⟨payload, ttlMs, response, hresponse, rfl⟩ := replayStart_eq_ok hs
    exact applyModeResponse_of_none (h.start hresponse) _
  obtain ⟨hstate, hresolution⟩ := hbegun hstart
  unfold begin at hagrees ⊢
  cases hcand : replayStart prost { start with policy := some candidate } mode with
  | error e =>
    rw [hcand] at hagrees
    have hentry := hagrees _ (List.mem_singleton_self _)
    simp only [EntryDiff.diverges, bne_eq_false_iff_eq, EntryOutcome.refused] at hentry
    cases hentry
  | ok session =>
    obtain ⟨hstate', hresolution'⟩ := hbegun hcand
    exact ⟨⟨_, rfl, hstate.trans hstate'.symm, hresolution.trans hresolution'.symm⟩, rfl⟩

section

variable (h : Indifferent mode start.policy (some candidate))

include h

/-- The candidate's start of an indifferent mode, with the recorded version put back, is the
recorded one under the candidate. -/
lemma Indifferent.replayStart_under (hstart : replayStart prost start mode = .ok recorded) :
    ∃ session, replayStart prost { start with policy := some candidate } mode = .ok session
      ∧ { session with policyVersion := recorded.policyVersion }
        = recorded.under (some candidate) := by
  simp only [replayStart, Except.bind_eq_ok_iff, Except.pure_eq_ok] at hstart ⊢
  obtain ⟨payload, hpayload, _, hvalid, ttlMs, httl, response, hresponse, hs⟩ := hstart
  cases hs
  have hother := h.start (replayPolicyVersion (some candidate) payload) rfl hresponse
  refine ⟨_, ⟨payload, hpayload, (), hvalid, ttlMs, httl, response, hother, rfl⟩, ?_⟩
  cases response <;> rfl

lemma Indifferent.parallel_begin (hstart : replayStart prost start mode = .ok recorded) :
    (begin prost start mode candidate recorded).Parallel start.policy (some candidate) := by
  have hpolicy : recorded.policyDefinition = start.policy := by
    obtain ⟨payload, ttlMs, response, _, rfl⟩ := replayStart_eq_ok hstart
    cases response <;> rfl
  obtain ⟨session, hsession, hunder⟩ := h.replayStart_under hstart
  have hstate : session.state = (recorded.under (some candidate)).state := by rw [← hunder]
  unfold begin
  rw [hsession]
  dsimp only
  rw [hunder]
  refine ⟨hpolicy, rfl, rfl, fun entry hentry => ?_⟩
  rw [List.mem_singleton] at hentry
  subst hentry
  exact bne_eq_false_iff_eq.mpr (congrArg EntryOutcome.Applied hstate.symm)

lemma Indifferent.together_begin (hstart : replayStart prost start mode = .ok recorded) :
    (begin prost start mode candidate recorded).Together
      fun s t => s.policyDefinition = start.policy ∧ t = s.under (some candidate) := by
  have hparallel := h.parallel_begin hstart
  refine ⟨⟨_, hparallel.candidate, hparallel.policy, rfl⟩, ?_⟩
  unfold begin
  split <;> rfl

end

end Start

end WhatIf

end MacpRuntime
