import MacpRuntime.Modes.Readable

/-!
What a decision keeps on record, over whole runs.

* `State.Sound`: evaluations, objections and ballots are declared participants' and about recorded
  proposals, and every ballot is filed under its own sender;
* `State.Later`: the phase moves forward, nothing on record changes, and after the first ballot only
  ballots are added;
* `decision_record`: **both along every run** whose confidences are read back exactly.  Another
  confidence is on record as a neighbouring double after the next message (`confidence_drifts`).
-/

namespace MacpRuntime.Decision

variable {d : Deps}

/-- The place of a phase in a decision. -/
def Phase.rank : Phase → ℕ
  | .Proposal => 0
  | .Evaluation => 1
  | .Voting => 2
  | .Committed => 3

/-! ### The invariant and the order -/

/-- The record of a session with the given participants. -/
structure State.Sound (participants : List String) (st : State) : Prop where
  evaluations : ∀ e ∈ st.evaluations, e.proposalId ∈ st.proposals ∧ e.sender ∈ participants
  objections : ∀ o ∈ st.objections, o.proposalId ∈ st.proposals ∧ o.sender ∈ participants
  ballots : ∀ p voter v, st.ballot? p voter = some v → p ∈ st.proposals ∧ v.proposalId = p
    ∧ v.sender = voter ∧ voter ∈ participants ∧ v.vote ∈ ballotValues
  single : ∀ p voter voter' v v', st.ballot? p voter = some v → st.ballot? p voter' = some v' →
    v.sender = v'.sender → voter = voter' ∧ v = v'
  voting : ∀ p voter v, st.ballot? p voter = some v → 2 ≤ st.phase.rank

/-- `st'` is a later state of the same decision as `st`. -/
structure State.Later (st st' : State) : Prop where
  forward : st.phase.rank ≤ st'.phase.rank
  proposals : ∀ (id : String) (r : Proposal), st.proposals[id]? = some r →
    st'.proposals[id]? = some r
  evaluations : st.evaluations <+: st'.evaluations
  objections : st.objections <+: st'.objections
  ballots : ∀ p voter v, st.ballot? p voter = some v → st'.ballot? p voter = some v
  closed : ∀ p voter v, st.ballot? p voter = some v → st'.proposals = st.proposals
    ∧ st'.evaluations = st.evaluations ∧ st'.objections = st.objections

lemma State.Later.refl (st : State) : st.Later st :=
  ⟨le_rfl, fun _ _ h => h, List.prefix_rfl, List.prefix_rfl, fun _ _ _ h => h,
    fun _ _ _ _ => ⟨rfl, rfl, rfl⟩⟩

lemma State.Later.trans {st₁ st₂ st₃ : State} (h : st₁.Later st₂) (h' : st₂.Later st₃) :
    st₁.Later st₃ := by
  refine ⟨h.forward.trans h'.forward, fun id r hr => h'.proposals id r (h.proposals id r hr),
    h.evaluations.trans h'.evaluations, h.objections.trans h'.objections,
    fun p voter v hv => h'.ballots p voter v (h.ballots p voter v hv), fun p voter v hv => ?_⟩
  obtain ⟨hp, he, ho⟩ := h.closed p voter v hv
  obtain ⟨hp', he', ho'⟩ := h'.closed p voter v (h.ballots p voter v hv)
  exact ⟨hp'.trans hp, he'.trans he, ho'.trans ho⟩

/-- The empty record is sound. -/
lemma State.default_sound (participants : List String) : State.default.Sound participants := by
  have hnone : ∀ p voter v, State.default.ballot? p voter ≠ some v := by
    intro p voter v
    simp [State.default, State.ballot?, Table.get]
  exact ⟨fun e he => absurd he List.not_mem_nil, fun o ho => absurd ho List.not_mem_nil,
    fun p voter v h => absurd h (hnone p voter v),
    fun p voter _ v _ h => absurd h (hnone p voter v),
    fun p voter v h => absurd h (hnone p voter v)⟩

/-! ### Ballots -/

/-- A ballot that is cast is there, and the others are as they were. -/
lemma State.ballot?_cast (st : State) (v : Vote) (p voter : String) :
    (st.cast v).ballot? p voter
      = if p = v.proposalId ∧ voter = v.sender then some v else st.ballot? p voter := by
  unfold State.ballot? State.cast
  rw [Table.get_put]
  simp only [Prod.mk.injEq]

/-- A ballot of the new state is the one that was cast or an old one. -/
lemma State.ballot?_cast_cases {st : State} {v w : Vote} {p voter : String}
    (h : (st.cast v).ballot? p voter = some w) :
    (p = v.proposalId ∧ voter = v.sender ∧ w = v) ∨ st.ballot? p voter = some w := by
  rw [State.ballot?_cast] at h
  split_ifs at h with hnew
  · cases h
    exact .inl ⟨hnew.1, hnew.2, rfl⟩
  · exact .inr h

/-! ### One message -/

section Change

variable {s : Session} {env : Envelope} {st st' : State}

/-- In a state that is not at the vote there is no ballot. -/
lemma State.Sound.no_ballot {participants : List String} (h : st.Sound participants)
    (hphase : st.phase.rank < 2) (p voter : String) : st.ballot? p voter = none := by
  rw [Option.eq_none_iff_forall_ne_some]
  intro v hv
  exact absurd (h.voting p voter v hv) (by omega)

/-- **One message keeps a record sound.** -/
theorem Change.sound (hch : Change d s env st st') (h : st.Sound s.participants) :
    st'.Sound s.participants := by
  cases hch with
  | @proposal r hphase hnew =>
    have hmono : ∀ {p}, p ∈ st.proposals → p ∈ st.proposals.insert r.proposalId r :=
      fun hp => Std.ExtTreeMap.mem_insert.mpr (.inr hp)
    have hnone := h.no_ballot (by rcases hphase with hp | hp <;> rw [hp] <;> decide)
    refine ⟨fun e he => ⟨hmono (h.evaluations e he).1, (h.evaluations e he).2⟩,
      fun o ho => ⟨hmono (h.objections o ho).1, (h.objections o ho).2⟩,
      fun p voter v hv => ?_, h.single, fun p voter v hv => ?_⟩
    · exact absurd ((hnone p voter).symm.trans hv) (by simp)
    · exact absurd ((hnone p voter).symm.trans hv) (by simp)
  | @evaluation payload e _ _ _ hphase hknown hsender =>
    refine ⟨fun e' he' => ?_, h.objections, h.ballots, h.single, h.voting⟩
    rcases List.mem_append.mp he' with hold | hadded
    · exact h.evaluations e' hold
    · rw [List.mem_singleton.mp hadded]
      exact ⟨hknown, hsender⟩
  | @objection o hphase hknown hsender =>
    refine ⟨h.evaluations, fun o' ho' => ?_, h.ballots, h.single, h.voting⟩
    rcases List.mem_append.mp ho' with hold | hadded
    · exact h.objections o' hold
    · rw [List.mem_singleton.mp hadded]
      exact ⟨hknown, hsender⟩
  | @vote v hphase hknown hfirst hvalue hsender =>
    have hballots : ∀ p voter w, (st.cast v).ballot? p voter = some w → p ∈ st.proposals
        ∧ w.proposalId = p ∧ w.sender = voter ∧ voter ∈ s.participants
        ∧ w.vote ∈ ballotValues := by
      intro p voter w hw
      rcases State.ballot?_cast_cases hw with ⟨rfl, rfl, rfl⟩ | hold
      · exact ⟨hknown, rfl, rfl, hsender, hvalue⟩
      · exact h.ballots p voter w hold
    refine ⟨h.evaluations, h.objections, hballots, ?_, fun _ _ _ _ => le_rfl⟩
    -- ballots are filed under their own senders, so one sender has one place
    intro p voter voter' w w' hw hw' hsame
    have hvoter : voter = voter' :=
      (hballots p voter w hw).2.2.1.symm.trans (hsame.trans (hballots p voter' w' hw').2.2.1)
    subst hvoter
    exact ⟨rfl, Option.some.inj (hw.symm.trans hw')⟩
  | commit _ _ =>
    exact ⟨h.evaluations, h.objections, h.ballots, h.single,
      fun _ _ _ _ => (by decide : 2 ≤ Phase.Committed.rank)⟩

/-- **One message leads to a later state.** -/
theorem Change.later (hch : Change d s env st st') (h : st.Sound s.participants) :
    st.Later st' := by
  cases hch with
  | @proposal r hphase hnew =>
    have hrank : st.phase.rank < 2 := by rcases hphase with hp | hp <;> rw [hp] <;> decide
    refine ⟨?_, fun id r' hr' => ?_, List.prefix_rfl, List.prefix_rfl, fun _ _ _ hv => hv,
      fun p voter v hv => ?_⟩
    · exact Nat.le_of_lt_succ hrank
    · have hid : r.proposalId ≠ id := by
        rintro rfl
        rw [Std.ExtTreeMap.getElem?_eq_none hnew] at hr'
        cases hr'
      rw [Std.ExtTreeMap.getElem?_insert, if_neg fun heq => hid (Std.compare_eq_iff_eq.mp heq)]
      exact hr'
    · rw [h.no_ballot hrank p voter] at hv
      cases hv
  | evaluation _ _ _ hphase hknown hsender =>
    refine ⟨le_rfl, fun _ _ hr => hr, List.prefix_append _ _, List.prefix_rfl,
      fun _ _ _ hv => hv, fun p voter v hv => ?_⟩
    rw [h.no_ballot (by rw [hphase]; decide) p voter] at hv
    cases hv
  | objection hphase hknown hsender =>
    refine ⟨le_rfl, fun _ _ hr => hr, List.prefix_rfl, List.prefix_append _ _,
      fun _ _ _ hv => hv, fun p voter v hv => ?_⟩
    rw [h.no_ballot (by rw [hphase]; decide) p voter] at hv
    cases hv
  | @vote v hphase hknown hfirst hvalue hsender =>
    refine ⟨?_, fun _ _ hr => hr, List.prefix_rfl, List.prefix_rfl, fun p voter w hw => ?_,
      fun _ _ _ _ => ⟨rfl, rfl, rfl⟩⟩
    · change st.phase.rank ≤ Phase.Voting.rank
      rcases hphase with hp | hp
      · rw [hp]
        decide
      · rw [hp]
    · have hother : ¬ (p = v.proposalId ∧ voter = v.sender) := by
        rintro ⟨rfl, rfl⟩
        rw [hfirst] at hw
        cases hw
      rw [State.ballot?_cast, if_neg hother, hw]
  | commit hphase _ =>
    refine ⟨?_, fun _ _ hr => hr, List.prefix_rfl, List.prefix_rfl, fun _ _ _ hv => hv,
      fun _ _ _ _ => ⟨rfl, rfl, rfl⟩⟩
    change st.phase.rank ≤ Phase.Committed.rank
    cases st.phase <;> decide

end Change

/-! ### Whole runs -/

lemma exists_of_mem_mapM {α β : Type} {f : α → Option β} {as : List α} {bs : List β}
    (h : as.mapM f = some bs) : ∀ b ∈ bs, ∃ a ∈ as, f a = some b := by
  induction as generalizing bs with
  | nil =>
    rw [List.mapM_nil] at h
    cases h
    simp
  | cons a as ih =>
    simp only [List.mapM_cons, Option.bind_eq_bind, Option.bind_eq_some_iff] at h
    obtain ⟨b, hb, bs', hbs', hcons⟩ := h
    cases hcons
    intro b' hb'
    rcases List.mem_cons.mp hb' with rfl | hrest
    · exact ⟨a, List.mem_cons_self, hb⟩
    · obtain ⟨a', ha', hf⟩ := ih hbs' b' hrest
      exact ⟨a', List.mem_cons_of_mem _ ha', hf⟩

/-- Only the confidences of a record change when it is read back. -/
lemma State.Sound.reread {participants : List String} {st st' : State} (h : st.Sound participants)
    {texts : FloatText} (hread : st.reread texts = some st') : st'.Sound participants := by
  rw [State.reread, Option.map_eq_some_iff] at hread
  obtain ⟨evaluations, hmap, rfl⟩ := hread
  refine ⟨fun e he => ?_, h.objections, h.ballots, h.single, h.voting⟩
  obtain ⟨e₀, he₀, hone⟩ := exists_of_mem_mapM hmap e he
  rw [Evaluation.reread, Option.map_eq_some_iff] at hone
  obtain ⟨confidence, -, rfl⟩ := hone
  exact h.evaluations e₀ he₀

/-- **A session without participants is inert**: it accepts no message and is never resolved. -/
theorem inert_of_no_participants {s : Session} (hbegun : SessionBegun d.prost (parts d).mode s)
    (hnone : s.participants = []) (ops : List Op) :
    (run (parts d).mode s ops).state ≠ .Resolved := by
  have hbytes := (parts_startsWith d).modeState hbegun
  have hstate : s.state ≠ .Resolved := by simp [StateMode.open_of_begun hbegun]
  clear hbegun
  induction ops generalizing s with
  | nil => exact hstate
  | cons op ops ih =>
    have hno : ∀ env st outcome, ¬ (parts d).Took s env st outcome := by
      intro env st outcome htook
      obtain rfl := Option.some.inj
        ((StateMode.held_of_read (parts_decode_encode d _) hbytes).symm.trans htook.held)
      exact not_took_of_no_participants hnone (by simp [commitmentReady, State.default]) htook
    have hbind : (op.apply (parts d).mode s).participants = s.participants :=
      congrArg (·.participants) (op.apply_moves s).bindings_eq
    rw [run_cons]
    refine ih (hbind.trans hnone) ?_ ?_
    · rcases StateMode.apply_cases (parts d) s op with
        ⟨hsame, -⟩ | ⟨env, _, st, outcome, -, -, htook, -⟩
      · exact hsame.trans hbytes
      · exact absurd htook (hno env st outcome)
    · intro hresolved
      rcases StateMode.apply_resolved hresolved with hbefore | ⟨env, _, st, outcome, _, -, htook, -⟩
      · exact hstate hbefore
      · exact hno env st outcome htook

/-- A run from a sound record whose confidences are read back leads to a later one. -/
lemma run_later {s : Session} {st : State} (hst : s.modeState = (parts d).encode st)
    (hsound : st.Sound s.participants) (hexact : st.Exact d.texts) {ops : List Op}
    (hops : Along (parts d).mode (ExactConfidence d) s ops) :
    ∃ st', (run (parts d).mode s ops).modeState = (parts d).encode st'
      ∧ (st'.Sound s.participants ∧ st'.Exact d.texts) ∧ st.Later st' := by
  refine StateMode.along_related (b := s.bindings)
    (P := fun st => st.Sound s.participants ∧ st.Exact d.texts) (R := State.Later) .refl
    (fun _ _ _ => .trans) ?_ ?_ rfl hst ⟨hsound, hexact⟩ hops
  · intro st hst
    rw [parts_decode_encode, hst.2.reread]
  · intro t env nowMs st outcome hbind hC htook hst
    have hpart : t.participants = s.participants := congrArg (·.participants) hbind
    have hchange := took_change htook
    obtain ⟨hsound, hexact⟩ := hst
    rw [← hpart] at hsound ⊢
    exact ⟨⟨hchange.sound hsound, hexact.took hC htook⟩, hchange.later hsound⟩

/-- **The record of a decision.**  In every run whose evaluations carry confidences that are read
back exactly, what is stored is a sound record and is read back; whatever follows, the phase only
moves forward, nothing on record changes, and only ballots are added after the first one; and
without participants the session is never resolved. -/
theorem decision_record {s : Session} (hbegun : SessionBegun d.prost (parts d).mode s)
    (ops later : List Op)
    (hexact : Along (parts d).mode (ExactConfidence d) s (ops ++ later)) :
    ∃ st st', (run (parts d).mode s ops).modeState = (parts d).encode st
      ∧ (parts d).held (run (parts d).mode s ops) = some st
      ∧ (run (parts d).mode s (ops ++ later)).modeState = (parts d).encode st'
      ∧ (parts d).held (run (parts d).mode s (ops ++ later)) = some st'
      ∧ st.Sound s.participants ∧ st.Later st'
      ∧ (s.participants = [] → (run (parts d).mode s ops).state ≠ .Resolved) := by
  rw [along_append] at hexact
  obtain ⟨st, hst, ⟨hsound, hst_exact⟩, -⟩ := run_later ((parts_startsWith d).modeState hbegun)
    (State.default_sound _) (fun e he => absurd he List.not_mem_nil) hexact.1
  have hpart : (run (parts d).mode s ops).participants = s.participants :=
    congrArg (·.participants) (run_bindings s ops)
  obtain ⟨st', hst', ⟨-, hst_exact'⟩, hlater⟩ :=
    run_later hst (by rwa [hpart]) hst_exact hexact.2
  have hread : ∀ {t st}, t.modeState = (parts d).encode st → st.Exact d.texts →
      (parts d).held t = some st := by
    intro t st ht hexact
    rw [StateMode.held_of_encoded ht, parts_decode_encode, hexact.reread]
  rw [run_append]
  exact ⟨st, st', hst, hread hst hst_exact, hst', hread hst' hst_exact', hsound, hlater,
    fun hnone => inert_of_no_participants hbegun hnone ops⟩

/-- A proposal and an evaluation with a confidence of one half, and then a vote. -/
theorem decision_record_sample :
    ∃ st st', (run (parts deps).mode sampleSession
          [.step sampleProposal 10, .step (sampleEvaluation half) 11]).modeState
        = (parts deps).encode st
      ∧ (run (parts deps).mode sampleSession
          ([.step sampleProposal 10, .step (sampleEvaluation half) 11]
            ++ [.step sampleVote 12])).modeState
        = (parts deps).encode st'
      ∧ st.Sound ["a", "b", "c"] ∧ st.Later st' := by
  obtain ⟨st, st', hst, -, hst', -, hsound, hlater, -⟩ := decision_record sampleSession_begun
    [.step sampleProposal 10, .step (sampleEvaluation half) 11] [.step sampleVote 12]
    ⟨fun htype => absurd htype (by decide), exactConfidence_half _,
      fun htype => absurd htype (by decide), trivial⟩
  exact ⟨st, st', hst, hst', hsound, hlater⟩

/-! ### A confidence that is not read back -/

/-- The mode with shortest decimals. -/
def shortDeps : Deps := { deps with texts := shortestDecimal }

/-- A session of it. -/
def shortSession : Session :=
  sampleSessionOf "macp.mode.decision.v1" none ((Codec.state shortestDecimal).encode .default)

lemma shortStart_accepted :
    acceptSessionStart protobuf (sampleStartOf "macp.mode.decision.v1") 5 (parts shortDeps).mode
      none {} = .ok shortSession := by
  rfl

/-- The double nearest to 10/11. -/
def tenElevenths : Bytes := [0x17, 0x5D, 0x74, 0xD1, 0x45, 0x17, 0xED, 0x3F]

/-- The approval of `p` by `b` with the given confidence. -/
def approval (bits : UInt64) : Evaluation := ⟨"p", "APPROVE", .ofBits bits, "", "b"⟩

/-- The session with its proposal. -/
def shortProposed : Session :=
  (parts shortDeps).after shortSession sampleProposal (sampleState []) 10

/-- The session with an evaluation. -/
def shortEvaluated : Session :=
  (parts shortDeps).after shortProposed (sampleEvaluation tenElevenths)
    (sampleState [approval 0x3FED1745D1745D17]) 11

/-- The session with a vote. -/
def shortVoted : Session :=
  (parts shortDeps).after shortEvaluated sampleVote
    ((sampleState [approval 0x3FED1745D1745D18]).cast ⟨"p", "APPROVE", "", "c"⟩) 12

lemma reread_approval : (sampleState [approval 0x3FED1745D1745D17]).reread shortestDecimal
    = some (sampleState [approval 0x3FED1745D1745D18]) := by
  have hevaluations : [approval 0x3FED1745D1745D17].mapM (Evaluation.reread shortestDecimal)
      = some [approval 0x3FED1745D1745D18] := by
    decide +kernel
  rw [State.reread, sampleState, hevaluations]
  rfl

lemma step_shortProposed : step shortSession sampleProposal (parts shortDeps).mode 10
    = (shortProposed, .ok (.Accepted .Open [])) :=
  StateMode.step_eq (StateMode.held_of_read (parts_decode_encode _ .default) rfl) rfl rfl rfl rfl

lemma step_shortEvaluated :
    step shortProposed (sampleEvaluation tenElevenths) (parts shortDeps).mode 11
      = (shortEvaluated, .ok (.Accepted .Open [])) := by
  have hheld : (parts shortDeps).held shortProposed = some (sampleState []) :=
    StateMode.held_after (parts_decode_encode _ _)
  exact StateMode.step_eq hheld rfl rfl rfl rfl

lemma step_shortVoted : step shortEvaluated sampleVote (parts shortDeps).mode 12
    = (shortVoted, .ok (.Accepted .Open [])) := by
  have hheld : (parts shortDeps).held shortEvaluated
      = some (sampleState [approval 0x3FED1745D1745D18]) := by
    have hbytes : shortEvaluated.modeState
        = (parts shortDeps).encode (sampleState [approval 0x3FED1745D1745D17]) :=
      StateMode.modeState_after _ _ _ _
    rw [StateMode.held_of_encoded hbytes, parts_decode_encode]
    exact reread_approval
  exact StateMode.step_eq hheld rfl rfl rfl rfl

/-- **A confidence drifts**: an evaluation with a confidence of 10/11 is stored, and the vote that
follows stores it with the neighbouring double. -/
theorem confidence_drifts :
    SessionBegun shortDeps.prost (parts shortDeps).mode shortSession
      ∧ ∃ st st', (run (parts shortDeps).mode shortSession
            [.step sampleProposal 10, .step (sampleEvaluation tenElevenths) 11]).modeState
          = (parts shortDeps).encode st
        ∧ (run (parts shortDeps).mode shortSession
            ([.step sampleProposal 10, .step (sampleEvaluation tenElevenths) 11]
              ++ [.step sampleVote 12])).modeState = (parts shortDeps).encode st'
        ∧ st.evaluations = [approval 0x3FED1745D1745D17]
        ∧ st'.evaluations = [approval 0x3FED1745D1745D18]
        ∧ ¬ st.evaluations <+: st'.evaluations := by
  have hevaluated : run (parts shortDeps).mode shortSession
      [.step sampleProposal 10, .step (sampleEvaluation tenElevenths) 11] = shortEvaluated := by
    rw [run_step step_shortProposed, run_step step_shortEvaluated, run_nil]
  refine ⟨.accepted shortStart_accepted, sampleState [approval 0x3FED1745D1745D17],
    (sampleState [approval 0x3FED1745D1745D18]).cast ⟨"p", "APPROVE", "", "c"⟩, ?_, ?_, rfl, rfl,
    ?_⟩
  · rw [hevaluated]
    exact StateMode.modeState_after _ _ _ _
  · rw [run_append, hevaluated, run_step step_shortVoted, run_nil]
    exact StateMode.modeState_after _ _ _ _
  · decide +kernel

end MacpRuntime.Decision
