import MacpRuntime.Kernel.Atomicity
import MacpRuntime.Modes.Readable

/-!
Convergence of a multi-round session over whole runs.

* `contributed`: the contributions a run got accepted, with the value read from each; `changes`
  counts those that differ from their sender's previous one;
* `Tracks`: the state holds every participant's latest value and the number of changes, and it is
  converged exactly when every participant has contributed and all values are equal;
* `multi_round_convergence`: **all of it along every run**; a converged state is final, and a
  commitment is accepted only on one, with the common value.
-/

namespace MacpRuntime.MultiRound

open Std

variable {d : Deps}

/-! ### Contributions -/

/-- The sender and the value of a contribution. -/
def contribution? (d : Deps) (e : Session × Envelope) : Option (String × String) :=
  if e.2.messageType = "Contribute" then
    (parseContributeValue d e.2.payload e.1.semanticsRev).toOption.map fun value =>
      (e.2.sender, value)
  else none

/-- The accepted contributions, newest first. -/
def contributed (d : Deps) (history : List (Session × Envelope)) : List (String × String) :=
  (history.filterMap (contribution? d)).reverse

/-- How many contributions differ from their sender's previous one. -/
def changes : List (String × String) → ℕ
  | [] => 0
  | (sender, value) :: earlier =>
    changes earlier + if earlier.lookup sender = some value then 0 else 1

variable (history : List (Session × Envelope))

lemma contributed_append (e : Session × Envelope) :
    contributed d (history ++ [e]) = (contribution? d e).toList ++ contributed d history := by
  unfold contributed
  cases h : contribution? d e <;> simp [List.filterMap_append, h]

lemma changes_le_length (cs : List (String × String)) : changes cs ≤ cs.length := by
  induction cs with
  | nil => exact le_rfl
  | cons c cs ih =>
    obtain ⟨sender, value⟩ := c
    rw [changes, List.length_cons]
    split_ifs <;> omega

lemma contributed_length_le : (contributed d history).length ≤ history.length := by
  rw [contributed, List.length_reverse]
  exact List.length_filterMap_le _ _

/-! ### Convergence -/

variable (st : State)

/-- Every participant has contributed, and all values are equal. -/
def State.Unanimous : Prop :=
  (∀ p ∈ st.participants, ∃ v, st.contributions[p]? = some v)
    ∧ ∀ (p q v w : String), st.contributions[p]? = some v → st.contributions[q]? = some w → v = w

/-- Neighbours are equal exactly if all are. -/
lemma zip_tail_all_beq_iff (values : List String) :
    ((values.zip values.tail).all fun e => e.1 == e.2) = true
      ↔ ∀ v ∈ values, ∀ w ∈ values, v = w := by
  induction values with
  | nil => simp
  | cons v values ih =>
    cases values with
    | nil => simp
    | cons w values =>
      rw [List.tail_cons, List.zip_cons_cons, List.all_cons, Bool.and_eq_true, beq_iff_eq]
      rw [List.tail_cons] at ih
      rw [ih]
      constructor
      · rintro ⟨hvw, hall⟩ a ha b hb
        obtain rfl : v = w := hvw
        have hto : ∀ c ∈ v :: v :: values, c = v := by
          intro c hc
          rcases List.mem_cons.mp hc with rfl | hc
          · rfl
          · exact hall c hc v List.mem_cons_self
        rw [hto a ha, hto b hb]
      · intro hall
        exact ⟨hall v List.mem_cons_self w (List.mem_cons_of_mem _ List.mem_cons_self),
          fun a ha b hb => hall a (List.mem_cons_of_mem _ ha) b (List.mem_cons_of_mem _ hb)⟩

/-- **The pairwise test decides unanimity.** -/
theorem checkConvergence_iff : checkConvergence st = true ↔ st.Unanimous := by
  have hvalues : ∀ v, v ∈ st.contributions.toList.map Prod.snd
      ↔ ∃ p : String, st.contributions[p]? = some v := by
    intro v
    simp only [List.mem_map, Prod.exists, ExtTreeMap.mem_toList_iff_getElem?_eq_some,
      exists_eq_right]
  unfold State.Unanimous
  change (st.participants.all st.contributions.contains
    && ((st.contributions.toList.map Prod.snd).zip (st.contributions.toList.map Prod.snd).tail).all
      fun e => e.1 == e.2) = true ↔ _
  rw [Bool.and_eq_true, zip_tail_all_beq_iff, List.all_eq_true]
  refine and_congr (forall₂_congr fun p _ => ?_) ?_
  · rw [ExtTreeMap.contains_iff_mem, ExtTreeMap.mem_iff_isSome_getElem?,
      Option.isSome_iff_exists]
  · constructor
    · intro hall p q v w hv hw
      exact hall v ((hvalues v).mpr ⟨p, hv⟩) w ((hvalues w).mpr ⟨q, hw⟩)
    · intro hall v hv w hw
      obtain ⟨p, hp⟩ := (hvalues v).mp hv
      obtain ⟨q, hq⟩ := (hvalues w).mp hw
      exact hall p q v w hp hq

/-! ### One message -/

/-- The state of a session with the given participants, after the given messages. -/
structure Tracks (d : Deps) (participants : List String) (history : List (Session × Envelope))
    (st : State) : Prop where
  roster : st.participants = participants
  latest : ∀ p : String, st.contributions[p]? = (contributed d history).lookup p
  declared : ∀ p v : String, st.contributions[p]? = some v → p ∈ participants
  round : st.round = UInt64.ofNat (changes (contributed d history))
  converged : st.converged = true ↔ st.Unanimous

/-- The state a contribution leaves, before the test. -/
def State.enter (sender value : String) : State :=
  if st.contributions[sender]? = some value then st
  else { st with round := st.round + 1, contributions := st.contributions.insert sender value }

lemma State.contributions_enter (sender value p : String) :
    (st.enter sender value).contributions[p]?
      = if p = sender then some value else st.contributions[p]? := by
  unfold State.enter
  split_ifs with hsame hp hp
  · rw [hp, hsame]
  · rfl
  · subst hp
    exact ExtTreeMap.getElem?_insert_self
  · change (st.contributions.insert sender value)[p]? = _
    rw [ExtTreeMap.getElem?_insert, if_neg fun heq => hp (Std.compare_eq_iff_eq.mp heq).symm]

/-- A contribution sets the flag if the values have become equal, and nothing else. -/
lemma State.contribute_eq (sender value : String) :
    st.contribute sender value
      = if checkConvergence (st.enter sender value) then
          { st.enter sender value with converged := true }
        else st.enter sender value := rfl

section Messages

variable {s t : Session} {env : Envelope} {st : State} {outcome : Outcome State}

/-- What an accepted message is. -/
lemma took_cases (h : (parts d).Took t env st outcome) :
    (env.messageType = "Contribute" ∧ st.converged = false
        ∧ (t.participants ≠ [] → env.sender ∈ t.participants)
        ∧ ∃ value, parseContributeValue d env.payload t.semanticsRev = .ok value
          ∧ outcome = .persist (st.contribute env.sender value))
      ∨ env.messageType = "Commitment" ∧ st.converged = true
        ∧ outcome = ⟨st, some (resolutionPayload st)⟩ := by
  have hauth : authorizeSender t env = .ok () := h.authorized
  have hhandled : handle d t env st = .ok outcome := h.handled
  unfold handle at hhandled
  split_ifs at hhandled with h1 h2
  · have htype : env.messageType = "Contribute" := by simpa using h1
    unfold handleContribute at hhandled
    split_ifs at hhandled with hconverged
    split at hhandled
    · cases hhandled
    · rename_i value hvalue
      cases hhandled
      refine .inl ⟨htype, by simpa using hconverged, fun hne => ?_, value, hvalue, rfl⟩
      rw [authorizeSender, htype, if_neg (by decide), defaultAuthorizeSender] at hauth
      split_ifs at hauth with hforbidden
      simpa [hne] using hforbidden
  · unfold handleCommitment at hhandled
    split_ifs at hhandled with hconverged
    split at hhandled
    · cases hhandled
    · cases hhandled
      exact .inr ⟨by simpa using h2, by simpa using hconverged, rfl⟩

/-- **An accepted message keeps track.** -/
theorem took_tracks (hne : t.participants ≠ []) {history : List (Session × Envelope)}
    (h : (parts d).Took t env st outcome) (hst : Tracks d t.participants history st) :
    Tracks d t.participants (history ++ [(t, env)]) outcome.state := by
  obtain ⟨hroster, hlatest, hdeclared, hround, hconverged⟩ := hst
  rcases took_cases h with ⟨htype, hopen, hsender, value, hvalue, rfl⟩ | ⟨htype, -, rfl⟩
  · have hnew : contributed d (history ++ [(t, env)])
        = (env.sender, value) :: contributed d history := by
      rw [contributed_append, contribution?, if_pos htype, hvalue]
      rfl
    -- the flag is not read by anything that is tracked
    have hentered : Tracks d t.participants (history ++ [(t, env)])
        { st.enter env.sender value with
          converged := checkConvergence (st.enter env.sender value) } := by
      refine ⟨?_, fun p => ?_, fun p v hget => ?_, ?_, checkConvergence_iff _⟩
      · rw [← hroster]
        unfold State.enter
        split_ifs <;> rfl
      · change (st.enter env.sender value).contributions[p]? = _
        rw [hnew, State.contributions_enter, List.lookup_cons]
        split_ifs with hp
        · rw [hp, beq_self_eq_true]
        · rw [beq_false_of_ne hp, hlatest]
      · change (st.enter env.sender value).contributions[p]? = _ at hget
        rw [State.contributions_enter] at hget
        split_ifs at hget with hp
        · exact hp ▸ hsender hne
        · exact hdeclared p v hget
      · rw [hnew, changes, ← hlatest]
        unfold State.enter
        split_ifs
        · exact hround
        · change st.round + 1 = _
          rw [hround, UInt64.ofNat_add]
          rfl
    have hstate : st.contribute env.sender value = { st.enter env.sender value with
        converged := checkConvergence (st.enter env.sender value) } := by
      rw [State.contribute_eq]
      split_ifs with hcheck
      · rw [hcheck]
      · have hflag : (st.enter env.sender value).converged = false := by
          unfold State.enter
          split_ifs
          · exact hopen
          · exact hopen
        rw [Bool.eq_false_iff.mpr hcheck, ← hflag]
    rw [Outcome.persist, hstate]
    exact hentered
  · have hsame : contributed d (history ++ [(t, env)]) = contributed d history := by
      rw [contributed_append, contribution?, if_neg (by simp [htype])]
      rfl
    exact ⟨hroster, fun p => by rw [hsame]; exact hlatest p, hdeclared, by rw [hsame]; exact hround,
      hconverged⟩

end Messages

/-! ### Whole runs -/

variable {s : Session} {st : State}

/-- A start has participants and no contribution. -/
lemma tracks_start (h : (parts d).start s = .ok st) :
    s.participants ≠ [] ∧ Tracks d s.participants [] st := by
  change onSessionStart s = _ at h
  unfold onSessionStart at h
  split_ifs at h with hempty
  have hne : s.participants ≠ [] := by simpa using hempty
  cases h
  refine ⟨hne, rfl, fun p => ?_, fun p v hget => ?_, rfl, ?_⟩
  · simp [contributed]
  · simp at hget
  · obtain ⟨p, hp⟩ := List.exists_mem_of_ne_nil _ hne
    refine iff_of_false (by simp) fun hall => ?_
    obtain ⟨v, hv⟩ := hall.1 p hp
    simp at hv

lemma exists_of_begun {prost : Prost} (h : SessionBegun prost (parts d).mode s) :
    s.participants ≠ [] ∧ ∃ st, s.modeState = (parts d).encode st
      ∧ Tracks d s.participants [] st := by
  obtain ⟨bound, st, hbind, hstart, hbytes⟩ := StateMode.modeState_of_begun h
  have hpart : bound.participants = s.participants := congrArg (·.participants) hbind
  rw [← hpart]
  exact (tracks_start hstart).imp_right fun htracks => ⟨st, hbytes, htracks⟩

/-- A converged state is final. -/
lemma run_converged (hst : s.modeState = (parts d).encode st) (ops : List Op) :
    ∃ st', (run (parts d).mode s ops).modeState = (parts d).encode st'
      ∧ (st.converged = true → st' = st) := by
  obtain ⟨st', hst', -, hfinal⟩ := StateMode.along_related (m := parts d) (P := fun _ => True)
    (R := fun st st' => st.converged = true → st' = st) (b := s.bindings) (fun _ _ => rfl)
    (fun st₁ st₂ st₃ h h' hconverged => by
      obtain rfl := h hconverged
      exact h' hconverged)
    (fun st _ => parts_decode_encode d st)
    (fun t env nowMs st outcome _ _ htook _ => ⟨trivial, fun hconverged => by
      rcases took_cases htook with ⟨-, hopen, -⟩ | ⟨-, -, rfl⟩
      · rw [hconverged] at hopen
        cases hopen
      · rfl⟩)
    rfl hst trivial (along_true s ops)
  exact ⟨st', hst', hfinal⟩

lemma run_tracks {prost : Prost} (hbegun : SessionBegun prost (parts d).mode s) (ops : List Op)
    (hst : (parts d).held (run (parts d).mode s ops) = some st) :
    Tracks d s.participants (acceptedSteps (parts d).mode s ops) st := by
  obtain ⟨hne, st₀, hst₀, htracks⟩ := exists_of_begun hbegun
  refine StateMode.along_history (m := parts d) (C := fun _ _ => True) (b := s.bindings)
    (P := Tracks d s.participants) ?_ ?_ [] rfl ?_ (along_true s ops) st hst
  · intro history st₁ st₂ hread hst₁
    rw [parts_decode_encode] at hread
    cases hread
    exact hst₁
  · intro history t env nowMs st₁ outcome hbind _ htook hst₁
    have hpart : t.participants = s.participants := congrArg (·.participants) hbind
    rw [← hpart] at hst₁ hne ⊢
    exact took_tracks hne htook hst₁
  · intro st₁ hst₁
    rw [StateMode.held_of_read (parts_decode_encode d _) hst₀] at hst₁
    cases hst₁
    exact htracks

/-- The common value of a unanimous state is the first one. -/
lemma resolutionPayload_eq {v : String} (hne : st.contributions ≠ ∅)
    (hall : ∀ p w : String, st.contributions[p]? = some w → w = v) :
    resolutionPayload st = Json.toVec (.object [("converged_value", .string v),
      ("round", JsonCodec.uint64.toJson st.round),
      ("final", JsonCodec.string.map.toJson st.contributions)]) := by
  have hhead : (st.contributions.toList.map Prod.snd).headD "" = v := by
    cases hlist : st.contributions.toList with
    | nil => exact absurd (ExtTreeMap.toList_eq_nil_iff.mp hlist) hne
    | cons e es =>
      refine hall e.1 e.2 (ExtTreeMap.mem_toList_iff_getElem?_eq_some.mp ?_)
      rw [hlist]
      exact List.mem_cons_self
  rw [resolutionPayload, hhead]
  rfl

/-- **Convergence.**  In every run the contributors are declared participants, each stored value
is its participant's latest one, the round is the number of contributions that differed from their
sender's previous one (the set of seen ids is in memory, so it has fewer than `2 ^ 64` elements),
and the session is converged exactly if every participant has contributed and all values are
equal; then nothing changes any more, and only then is a commitment accepted, with the common
value. -/
theorem multi_round_convergence {prost : Prost} {s : Session}
    (hbegun : SessionBegun prost (parts d).mode s) (ops later : List Op) :
    ∃ st st', (parts d).held (run (parts d).mode s ops) = some st
      ∧ (parts d).held (run (parts d).mode s (ops ++ later)) = some st'
      ∧ (∀ p v : String, st.contributions[p]? = some v → p ∈ s.participants)
      ∧ (∀ p : String, st.contributions[p]?
        = (contributed d (acceptedSteps (parts d).mode s ops)).lookup p)
      ∧ ((run (parts d).mode s ops).seenMessageIds.size < 2 ^ 64 →
        st.round.toNat = changes (contributed d (acceptedSteps (parts d).mode s ops)))
      ∧ st.participants = s.participants
      ∧ (st.converged = true ↔ st.Unanimous)
      ∧ (st.converged = true → st' = st)
      ∧ ∀ env nowMs state synthesized,
        (step (run (parts d).mode s ops) env (parts d).mode nowMs).2
          = .ok (.Accepted state synthesized) → env.messageType = "Commitment" →
        st.converged = true ∧ ∃ v, (∀ p ∈ s.participants, st.contributions[p]? = some v)
          ∧ (step (run (parts d).mode s ops) env (parts d).mode nowMs).1.resolution
            = some (Json.toVec (.object [("converged_value", .string v),
              ("round", JsonCodec.uint64.toJson st.round),
              ("final", JsonCodec.string.map.toJson st.contributions)])) := by
  obtain ⟨hne, st₀, hst₀, -⟩ := exists_of_begun hbegun
  obtain ⟨st, hst, -⟩ := run_converged hst₀ ops
  obtain ⟨st', hst', hfinal⟩ := run_converged hst later
  have hheld := StateMode.held_of_read (parts_decode_encode d st) hst
  obtain ⟨hroster, hlatest, hdeclared, hround, hconverged⟩ := run_tracks hbegun ops hheld
  rw [run_append]
  refine ⟨st, st', hheld, StateMode.held_of_read (parts_decode_encode d st') hst', hdeclared,
    hlatest, ?_, hroster, hconverged, hfinal, ?_⟩
  · -- there are at most as many changes as ids that were seen
    intro hsize
    have hseen := @acceptedSteps_length_le (parts d).mode s ops
    have hcount := changes_le_length (contributed d (acceptedSteps (parts d).mode s ops))
    have hlength := contributed_length_le (d := d) (acceptedSteps (parts d).mode s ops)
    rw [hround, UInt64.toNat_ofNat_of_lt' (by change _ < 2 ^ 64; omega)]
  · intro env nowMs state synthesized haccepted htype
    obtain ⟨st₁, outcome, htook, -, hcommit, -⟩ := StateMode.step_accepted haccepted
    obtain rfl := Option.some.inj (hheld.symm.trans htook.held)
    rcases took_cases htook with ⟨hother, -⟩ | ⟨-, hflag, rfl⟩
    · exact absurd (hother.symm.trans htype) (by decide)
    · obtain ⟨hall, hequal⟩ := hconverged.mp hflag
      obtain ⟨p, hp⟩ := List.exists_mem_of_ne_nil _ hne
      obtain ⟨v, hv⟩ := hall p (hroster ▸ hp)
      have hvalues : ∀ q w : String, st.contributions[q]? = some w → w = v :=
        fun q w hw => hequal q p w v hw hv
      have hsome : st.contributions ≠ ∅ := by
        intro hnone
        rw [hnone] at hv
        simp at hv
      refine ⟨hflag, v, fun q hq => ?_, ?_⟩
      · obtain ⟨w, hw⟩ := hall q (hroster ▸ hq)
        rw [hw, hvalues q w hw]
      · rw [hcommit, ← resolutionPayload_eq hsome hvalues]
        rfl

/-! ### A session that converges -/

/-- The state after some contributions. -/
def stateOf (values : List (String × String)) : State :=
  values.foldl (fun st c => st.contribute c.1 c.2) ⟨0, ["a", "b", "c"], ∅, "all_equal", false⟩

/-- The session after the first contribution. -/
def opened : Session :=
  (parts deps).after sampleSession (sampleContribution "m1" "a" 120) (stateOf [("a", "x")]) 10

/-- The session after the second. -/
def joined : Session :=
  (parts deps).after opened (sampleContribution "m2" "b" 120) (stateOf [("a", "x"), ("b", "x")]) 11

/-- The session after the third, which differs. -/
def divided : Session :=
  (parts deps).after joined (sampleContribution "m3" "c" 121)
    (stateOf [("a", "x"), ("b", "x"), ("c", "y")]) 12

/-- The state after the fourth. -/
def agreedState : State := stateOf [("a", "x"), ("b", "x"), ("c", "y"), ("c", "x")]

/-- The session after the fourth. -/
def agreed : Session :=
  (parts deps).after divided (sampleContribution "m4" "c" 120) agreedState 13

lemma held_after_stateOf (s : Session) (env : Envelope) (values : List (String × String))
    (nowMs : Int64) :
    (parts deps).held ((parts deps).after s env (stateOf values) nowMs) = some (stateOf values) :=
  StateMode.held_after (parts_decode_encode _ _)

lemma run_agreed : run (parts deps).mode sampleSession agreedOps = agreed := by
  have hopened : step sampleSession (sampleContribution "m1" "a" 120) (parts deps).mode 10
      = (opened, .ok (.Accepted .Open [])) :=
    StateMode.step_eq (StateMode.held_of_read (parts_decode_encode deps (stateOf [])) rfl)
      rfl rfl rfl rfl
  have hjoined : step opened (sampleContribution "m2" "b" 120) (parts deps).mode 11
      = (joined, .ok (.Accepted .Open [])) :=
    StateMode.step_eq (held_after_stateOf _ _ _ _) rfl rfl rfl rfl
  have hdivided : step joined (sampleContribution "m3" "c" 121) (parts deps).mode 12
      = (divided, .ok (.Accepted .Open [])) :=
    StateMode.step_eq (held_after_stateOf _ _ _ _) rfl rfl rfl rfl
  have hagreed : step divided (sampleContribution "m4" "c" 120) (parts deps).mode 13
      = (agreed, .ok (.Accepted .Open [])) :=
    StateMode.step_eq (held_after_stateOf _ _ _ _) rfl rfl rfl rfl
  rw [agreedOps, run_step hopened, run_step hjoined, run_step hdivided, run_step hagreed, run_nil]

/-- Four contributions converge in the fourth round, and a fifth changes nothing. -/
theorem multi_round_convergence_agreed :
    agreedState.converged = true ∧ agreedState.Unanimous
      ∧ changes (contributed deps (acceptedSteps (parts deps).mode sampleSession agreedOps)) = 4
      ∧ (∀ p : String, agreedState.contributions[p]?
        = (contributed deps (acceptedSteps (parts deps).mode sampleSession agreedOps)).lookup p)
      ∧ (parts deps).held (run (parts deps).mode sampleSession
          (agreedOps ++ [.step (sampleContribution "m5" "a" 121) 14])) = some agreedState := by
  have hheld : (parts deps).held (run (parts deps).mode sampleSession agreedOps)
      = some agreedState := by
    rw [run_agreed]
    exact held_after_stateOf _ _ _ _
  have hflag : agreedState.converged = true := by decide +kernel
  obtain ⟨st, st', hst, hst', -, hlatest, hround, -, hconverged, hfinal, -⟩ :=
    multi_round_convergence sampleSession_begun agreedOps
      [.step (sampleContribution "m5" "a" 121) 14]
  obtain rfl := Option.some.inj (hheld.symm.trans hst)
  refine ⟨hflag, hconverged.mp hflag, (hround ?_).symm.trans ?_, hlatest, ?_⟩
  · rw [run_agreed]
    decide +kernel
  · decide +kernel
  · rw [hst', hfinal hflag]

end MacpRuntime.MultiRound
