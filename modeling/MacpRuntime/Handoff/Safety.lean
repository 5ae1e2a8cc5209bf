import MacpRuntime.Handoff.Codec
import MacpRuntime.Handoff.Offers

/-!
Safety of the handoff mode over whole runs.

* `State.Safe`: at most one offer is outstanding or accepted, every answer is recorded under the
  offer's target, and every target is a declared participant other than the initiator;
* `State.Keeps`, `State.Later`: no offer is removed or retargeted, a settled offer is frozen, and,
  from revision 4, a target that declined is not offered again;
* `handoff_safety`: **both hold along every run** of a session at revision 4 or later.
-/

namespace MacpRuntime.Handoff

variable {d : Deps}

/-! ### The invariant and the order -/

/-- An answer is recorded under the offer's target, and an outstanding offer has none. -/
def OfferRecord.Signed (o : OfferRecord) : Prop :=
  match o.disposition with
  | .Offered => o.acceptedBy = none ∧ o.declinedBy = none
  | .Accepted => o.acceptedBy = some o.targetParticipant ∧ o.declinedBy = none
  | .Declined => o.acceptedBy = none ∧ o.declinedBy = some o.targetParticipant

/-- The safety invariant of the mode state of a session with the given bindings. -/
structure State.Safe (b : Session.Bindings) (st : State) : Prop where
  keyed : ∀ k o, st.offer? k = some o → o.handoffId = k
  single : ∀ k o k' o', st.offer? k = some o → st.offer? k' = some o' →
    o.disposition ≠ .Declined → o'.disposition ≠ .Declined → k = k'
  signed : ∀ k o, st.offer? k = some o → o.Signed
  target : ∀ k o, st.offer? k = some o →
    o.targetParticipant ∈ b.participants ∧ o.targetParticipant ≠ b.initiatorSender

/-- `st'` keeps the offers of `st`: none is removed or retargeted, settled ones are frozen,
and one that is still outstanding is as it was recorded. -/
def State.Keeps (st st' : State) : Prop :=
  ∀ k o, st.offer? k = some o → ∃ o', st'.offer? k = some o'
    ∧ o'.targetParticipant = o.targetParticipant ∧ (o.disposition ≠ .Offered → o' = o)
    ∧ (o'.disposition = .Offered → o' = o)

lemma State.Keeps.refl (st : State) : st.Keeps st :=
  fun _ o hget => ⟨o, hget, rfl, fun _ => rfl, fun _ => rfl⟩

lemma State.Keeps.trans {st₁ st₂ st₃ : State} (h : st₁.Keeps st₂) (h' : st₂.Keeps st₃) :
    st₁.Keeps st₃ := by
  intro k o hget
  obtain ⟨o₂, hget₂, htarget₂, hfrozen₂, hpending₂⟩ := h k o hget
  obtain ⟨o₃, hget₃, htarget₃, hfrozen₃, hpending₃⟩ := h' k o₂ hget₂
  refine ⟨o₃, hget₃, htarget₃.trans htarget₂, fun hsettled => ?_, fun hpending => ?_⟩
  · have h₂ := hfrozen₂ hsettled
    exact (hfrozen₃ (h₂ ▸ hsettled)).trans h₂
  · have h₃ := hpending₃ hpending
    exact h₃.trans (hpending₂ (h₃ ▸ hpending))

/-- `st'` is a later state of the same session as `st`: it keeps the offers, and a target that
had declined is not the target of a new one. -/
structure State.Later (st st' : State) : Prop where
  kept : st.Keeps st'
  barred : ∀ k o, st'.offer? k = some o → st.offer? k = none →
    ∀ k' o', st.offer? k' = some o' → o'.disposition = .Declined →
      o.targetParticipant ≠ o'.targetParticipant

lemma State.Later.refl (st : State) : st.Later st := by
  refine ⟨.refl st, ?_⟩
  intro k o hget hnone
  rw [hnone] at hget
  cases hget

lemma State.Later.trans {st₁ st₂ st₃ : State} (h : st₁.Later st₂) (h' : st₂.Later st₃) :
    st₁.Later st₃ := by
  refine ⟨h.kept.trans h'.kept, ?_⟩
  intro k o hget hnone k' o' hget' hdeclined
  obtain ⟨o₂', hget₂', _, hfrozen, _⟩ := h.kept k' o' hget'
  have heq : o₂' = o' := hfrozen (by simp [hdeclined])
  subst heq
  -- the offer is recorded by the first half of the way or by the second
  cases hmid : st₂.offer? k with
  | none => exact h'.barred k o hget hmid k' o₂' hget₂' hdeclined
  | some o₂ =>
    obtain ⟨o₃, hget₃, htarget, _⟩ := h'.kept k o₂ hmid
    rw [hget] at hget₃
    cases hget₃
    rw [htarget]
    exact h.barred k o₂ hmid hnone k' o₂' hget' hdeclined

/-! ### One message -/

variable {b : Session.Bindings} {k : String} {o : OfferRecord} {st : State} {s : Session}

/-- Settling the outstanding offer keeps a state safe. -/
lemma State.Safe.settle (h : st.Safe b) {o' : OfferRecord} (hget : st.offer? k = some o)
    (hpending : o.disposition = .Offered) (hid : o'.handoffId = o.handoffId)
    (htarget : o'.targetParticipant = o.targetParticipant) (hsigned : o'.Signed) :
    (st.setOffer k o').Safe b := by
  have hlive : o.disposition ≠ .Declined := by simp [hpending]
  refine ⟨?_, ?_, ?_, ?_⟩
  · exact State.forall_setOffer (hid.trans (h.keyed k o hget)) h.keyed
  · -- the settled offer was live before, so it stands for itself in the old state
    intro k₁ o₁ k₂ o₂ hget₁ hget₂ hlive₁ hlive₂
    rcases State.setOffer_cases hget₁ with ⟨rfl, -⟩ | ⟨_, hold₁⟩ <;>
      rcases State.setOffer_cases hget₂ with ⟨rfl, -⟩ | ⟨_, hold₂⟩
    · rfl
    · exact h.single k₁ o k₂ o₂ hget hold₂ hlive hlive₂
    · exact h.single k₁ o₁ k₂ o hold₁ hget hlive₁ hlive
    · exact h.single k₁ o₁ k₂ o₂ hold₁ hold₂ hlive₁ hlive₂
  · exact State.forall_setOffer hsigned h.signed
  · refine State.forall_setOffer ?_ h.target
    rw [htarget]
    exact h.target k o hget

/-- Recording an offer when every earlier one is declined keeps a state safe. -/
lemma State.Safe.record (h : st.Safe b)
    (hquiet : ∀ k o, st.offer? k = some o → o.disposition = .Declined) (hsigned : o.Signed)
    (htarget : o.targetParticipant ∈ b.participants ∧ o.targetParticipant ≠ b.initiatorSender) :
    (st.setOffer o.handoffId o).Safe b := by
  -- an offer that is not declined can only be the new one
  have hnew : ∀ k₁ o₁, (st.setOffer o.handoffId o).offer? k₁ = some o₁ →
      o₁.disposition ≠ .Declined → k₁ = o.handoffId :=
    State.forall_setOffer (fun _ => rfl) fun k₁ o₁ hold hlive => absurd (hquiet k₁ o₁ hold) hlive
  refine ⟨State.forall_setOffer rfl h.keyed, ?_, State.forall_setOffer hsigned h.signed,
    State.forall_setOffer htarget h.target⟩
  intro k₁ o₁ k₂ o₂ hget₁ hget₂ hlive₁ hlive₂
  exact (hnew k₁ o₁ hget₁ hlive₁).trans (hnew k₂ o₂ hget₂ hlive₂).symm

/-- Settling the outstanding offer keeps the offers. -/
lemma State.keeps_settle {o' : OfferRecord} (hget : st.offer? k = some o)
    (hpending : o.disposition = .Offered) (htarget : o'.targetParticipant = o.targetParticipant)
    (hsettled : o'.disposition ≠ .Offered) : st.Keeps (st.setOffer k o') := by
  intro k₁ o₁ hget₁
  by_cases hk : k = k₁
  · subst hk
    rw [hget] at hget₁
    cases hget₁
    exact ⟨o', st.offer?_setOffer_self k o', htarget, fun h => absurd hpending h,
      fun h => absurd h hsettled⟩
  · refine ⟨o₁, ?_, rfl, fun _ => rfl, fun _ => rfl⟩
    rw [st.offer?_setOffer, if_neg hk, hget₁]

/-- Recording a new offer keeps the earlier ones. -/
lemma State.keeps_record (hnew : st.offer? k = none) (o : OfferRecord) :
    st.Keeps (st.setOffer k o) := by
  intro k₁ o₁ hget₁
  refine ⟨o₁, ?_, rfl, fun _ => rfl, fun _ => rfl⟩
  have hk : k ≠ k₁ := by
    rintro rfl
    rw [hnew] at hget₁
    cases hget₁
  rw [st.offer?_setOffer, if_neg hk, hget₁]

section Change

variable {s : Session} {env : Envelope} {clockMs : Int64} {st st' : State}

section

variable (hch : Change d s env clockMs st st')

include hch

/-- **One message keeps a state safe**, if only the initiator offers. -/
theorem Change.safe (hoffer : env.messageType = "HandoffOffer" → env.sender = s.initiatorSender)
    (h : st.Safe s.bindings) : st'.Safe s.bindings := by
  cases hch with
  | @offer payload htype hnew hdeclared hother hquiet hbar =>
    have hsender := hoffer htype
    have hmem : payload.targetParticipant ∈ s.participants := by
      simpa [isDeclaredParticipant] using hdeclared
    rw [hsender] at hother
    exact h.record (o := newOffer s env clockMs payload) hquiet ⟨rfl, rfl⟩ ⟨hmem, hother⟩
  | context contexts => exact ⟨h.keyed, h.single, h.signed, h.target⟩
  | @accept payload o _ _ hget hpending _ =>
    have hsigned := h.signed _ _ hget
    rw [OfferRecord.Signed, hpending] at hsigned
    exact h.settle hget hpending rfl rfl ⟨rfl, hsigned.2⟩
  | @decline payload o hget hpending _ =>
    have hsigned := h.signed _ _ hget
    rw [OfferRecord.Signed, hpending] at hsigned
    exact h.settle hget hpending rfl rfl ⟨hsigned.1, rfl⟩
  | commit => exact h

/-- **One message keeps the offers.** -/
theorem Change.keeps : st.Keeps st' := by
  cases hch with
  | offer _ hnew _ _ _ _ => exact State.keeps_record hnew _
  | context contexts => exact State.Keeps.refl st
  | accept _ _ hget hpending _ => exact State.keeps_settle hget hpending rfl (by rintro ⟨⟩)
  | decline hget hpending _ => exact State.keeps_settle hget hpending rfl (by rintro ⟨⟩)
  | commit => exact .refl st

/-- A key that a message brings in is that of a new offer. -/
lemma Change.new_offer {k : String} {o : OfferRecord} (hget : st'.offer? k = some o)
    (hnone : st.offer? k = none) :
    env.messageType = "HandoffOffer" ∧ (∃ payload, o = newOffer s env clockMs payload)
      ∧ (4 ≤ s.semanticsRev → ∀ k' o', st.offer? k' = some o' →
          o'.targetParticipant ≠ o.targetParticipant) := by
  have hne : st.offer? k ≠ some o := by simp [hnone]
  cases hch with
  | @offer payload htype _ _ _ _ hbar =>
    rcases State.setOffer_cases hget with ⟨rfl, rfl⟩ | ⟨_, hold⟩
    · exact ⟨htype, ⟨payload, rfl⟩, hbar⟩
    · exact absurd hold hne
  | context contexts => exact absurd hget hne
  | accept _ _ hpending _ _ =>
    rcases State.setOffer_cases hget with ⟨rfl, -⟩ | ⟨_, hold⟩
    · simp [hnone] at hpending
    · exact absurd hold hne
  | decline hpending _ _ =>
    rcases State.setOffer_cases hget with ⟨rfl, -⟩ | ⟨_, hold⟩
    · simp [hnone] at hpending
    · exact absurd hold hne
  | commit => exact absurd hget hne

/-- **One message leads to a later state**, from revision 4 on. -/
theorem Change.later (hrev : 4 ≤ s.semanticsRev) : st.Later st' := by
  refine ⟨hch.keeps, ?_⟩
  intro k o hget hnone k' o' hget' _
  obtain ⟨_, _, hbar⟩ := hch.new_offer hget hnone
  exact Ne.symm (hbar hrev k' o' hget')

end

end Change

/-! ### Whole runs -/

/-- A chain of moves from a safe state ends in a safe one, related to it by whatever order
every message respects. -/
lemma safe_of_moves {R : State → State → Prop} (hrefl : ∀ st, R st st)
    (htrans : ∀ st₁ st₂ st₃, R st₁ st₂ → R st₂ st₃ → R st₁ st₃)
    (hrev : 2 ≤ s.semanticsRev)
    (hR : ∀ t env clockMs st st', t.bindings = s.bindings → Change d t env clockMs st st' →
      R st st')
    (hst : decodeState d s = some st) (hsafe : st.Safe s.bindings) (ops : List Op) :
    ∃ st', decodeState d (run (mode d) s ops) = some st' ∧ st'.Safe s.bindings ∧ R st st' := by
  suffices h : (run (mode d) s ops).bindings = s.bindings
      ∧ ∃ st', decodeState d (run (mode d) s ops) = some st' ∧ st'.Safe s.bindings ∧ R st st'
    from h.2
  refine run_invariant (P := fun t => t.bindings = s.bindings
      ∧ ∃ st', decodeState d t = some st' ∧ st'.Safe s.bindings ∧ R st st') ?_
    ⟨rfl, st, hst, hsafe, hrefl st⟩
  rintro op - t t' hm ⟨hbind, st₁, hst₁, hsafe₁, hrel₁⟩
  have hrev₁ : 2 ≤ t.semanticsRev :=
    hrev.trans_eq (congrArg Session.Bindings.semanticsRev hbind.symm)
  refine ⟨hm.bindings_eq.trans hbind, ?_⟩
  obtain ⟨st₂, hst₂, rfl | ⟨env, clockMs, horigin, hch⟩⟩ := move_change hm hrev₁ hst₁
  · exact ⟨st₂, hst₂, hsafe₁, hrel₁⟩
  · refine ⟨st₂, hst₂, ?_, htrans _ _ _ hrel₁ (hR t env clockMs st₁ st₂ hbind hch)⟩
    rw [← hbind] at hsafe₁ ⊢
    exact hch.safe horigin.sender_eq_initiator hsafe₁

/-- A run from a safe state keeps the offers, and keeps the state safe. -/
lemma run_safe_keeps (hrev : 2 ≤ s.semanticsRev) (hst : decodeState d s = some st)
    (hsafe : st.Safe s.bindings) (ops : List Op) :
    ∃ st', decodeState d (run (mode d) s ops) = some st' ∧ st'.Safe s.bindings
      ∧ st.Keeps st' :=
  safe_of_moves .refl (fun _ _ _ => .trans) hrev (fun _ _ _ _ _ _ hch => hch.keeps) hst hsafe ops

/-- From revision 4 it leads to a later state. -/
lemma run_safe_later (hrev : 4 ≤ s.semanticsRev) (hst : decodeState d s = some st)
    (hsafe : st.Safe s.bindings) (ops : List Op) :
    ∃ st', decodeState d (run (mode d) s ops) = some st' ∧ st'.Safe s.bindings
      ∧ st.Later st' := by
  refine safe_of_moves .refl (fun _ _ _ => .trans) (by omega) ?_ hst hsafe ops
  intro t env clockMs st st' hbind hch
  exact hch.later (hrev.trans_eq (congrArg Session.Bindings.semanticsRev hbind.symm))

/-- The empty state is safe. -/
lemma State.default_safe (b : Session.Bindings) : State.default.Safe b := by
  have hnone : ∀ k o, State.default.offer? k ≠ some o := by
    intro k o
    simp [State.default, State.offer?]
  exact ⟨fun k o h => absurd h (hnone k o), fun k o _ _ h => absurd h (hnone k o),
    fun k o h => absurd h (hnone k o), fun k o h => absurd h (hnone k o)⟩

/-- **Handoff safety**: in every state a run reaches from the beginning of a session at
revision 4 or later, at most one offer is outstanding or accepted, answers are recorded
under the offer's target, and targets are declared participants other than the initiator;
and whatever follows, no offer is removed or retargeted, settled offers are frozen, and no
target of a declined offer is offered again. -/
theorem handoff_safety {s : Session} (hbegun : SessionBegun d.prost (mode d) s)
    (hrev : 4 ≤ s.semanticsRev) (ops later : List Op) :
    ∃ st st', decodeState d (run (mode d) s ops) = some st
      ∧ decodeState d (run (mode d) s (ops ++ later)) = some st'
      ∧ st.Safe s.bindings ∧ st.Later st' := by
  obtain ⟨st, hst, hsafe, _⟩ :=
    run_safe_later hrev (decodeState_of_begun hbegun) (State.default_safe _) ops
  have hbind : (run (mode d) s ops).bindings = s.bindings := run_bindings s ops
  have hrev' : 4 ≤ (run (mode d) s ops).semanticsRev :=
    hrev.trans_eq (congrArg Session.Bindings.semanticsRev hbind.symm)
  obtain ⟨st', hst', _, hlater⟩ :=
    run_safe_later hrev' hst (by rw [hbind]; exact hsafe) later
  refine ⟨st, st', hst, ?_, hsafe, hlater⟩
  rw [run_append]
  exact hst'

theorem handoff_safety_sample :
    ∃ st st', decodeState deps (run (mode deps) (sampleSession 5)
          [Op.step sampleOffer 10]) = some st
      ∧ decodeState deps (run (mode deps) (sampleSession 5)
          ([Op.step sampleOffer 10] ++ [Op.advance 200])) = some st'
      ∧ st.Safe (sampleSession 5).bindings ∧ st.Later st' :=
  handoff_safety sampleSession_begun (by decide) [Op.step sampleOffer 10] [Op.advance 200]

end MacpRuntime.Handoff
