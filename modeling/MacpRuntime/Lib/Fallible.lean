import Mathlib.Tactic

/-!
Fallible computations in `Except`: guards, how to take an accepted sequence apart (`bind_eq_ok_iff`,
`forM_eq_ok_iff`), and checks that pass together (`Agree`).
-/

namespace Except

universe u

variable {ε : Type*} {α β : Type u}

/-- Fail with `e` when `c` holds. -/
def refuseIf (c : Prop) [Decidable c] (e : ε) : Except ε Unit := if c then .error e else .ok ()

@[simp] lemma refuseIf_eq_ok {c : Prop} [Decidable c] {e : ε} {u : Unit} :
    refuseIf c e = .ok u ↔ ¬ c := by
  unfold refuseIf
  split <;> simp_all

/-- Fail with the error that was found. -/
def refuseSome : Option ε → Except ε Unit
  | some e => .error e
  | none => .ok ()

@[simp] lemma refuseSome_eq_ok {found : Option ε} {u : Unit} :
    refuseSome found = .ok u ↔ found = none := by
  cases found <;> simp [refuseSome]

/-- An accepted sequence accepted each of its parts. -/
lemma bind_eq_ok_iff {x : Except ε α} {k : α → Except ε β} {b : β} :
    x >>= k = .ok b ↔ ∃ a, x = .ok a ∧ k a = .ok b := by
  refine ⟨fun h => ?_, fun ⟨a, hx, hk⟩ => ?_⟩
  · rcases x with e | a
    · cases h
    · exact ⟨a, rfl, h⟩
  · rw [hx]
    exact hk

@[simp] lemma ok_bind (a : α) (k : α → Except ε β) : (Except.ok a >>= k) = k a := rfl

@[simp] lemma pure_eq_ok (a : α) : (pure a : Except ε α) = .ok a := rfl

/-- A computation that is seen to succeed has a result. -/
lemma exists_eq_ok_of_toBool {x : Except ε α} (h : x.toBool = true) : ∃ a, x = .ok a := by
  cases x with
  | error e => cases h
  | ok a => exact ⟨a, rfl⟩

/-- A check of every element of a list passes when each of them does. -/
lemma forM_eq_ok_iff {α : Type*} {f : α → Except ε Unit} {l : List α} {u : Unit} :
    l.forM f = .ok u ↔ ∀ a ∈ l, f a = .ok () := by
  induction l with
  | nil => simp [List.forM]
  | cons a l ih =>
    rw [List.forall_mem_cons, ← ih]
    change (f a >>= fun _ => l.forM f) = _ ↔ _
    rw [bind_eq_ok_iff]
    exact ⟨fun ⟨_, ha, hl⟩ => ⟨ha, hl⟩, fun ⟨ha, hl⟩ => ⟨_, ha, hl⟩⟩

/-! ### Checks that pass together -/

/-- Both checks pass or neither does. -/
def Agree (x y : Except ε Unit) : Prop := x = .ok () ↔ y = .ok ()

lemma Agree.of_eq {x y : Except ε Unit} (h : x = y) : Agree x y := by
  rw [h, Agree]

/-- One check after another. -/
lemma Agree.andThen {x y : Except ε Unit} {k l : Unit → Except ε Unit} (h : Agree x y)
    (hk : Agree (k ()) (l ())) : Agree (x >>= k) (y >>= l) := by
  unfold Agree
  rw [bind_eq_ok_iff, bind_eq_ok_iff]
  exact ⟨fun ⟨_, hx, hrest⟩ => ⟨(), h.mp hx, hk.mp hrest⟩,
    fun ⟨_, hy, hrest⟩ => ⟨(), h.mpr hy, hk.mpr hrest⟩⟩

lemma agree_refuseIf {c d : Prop} [Decidable c] [Decidable d] (h : c ↔ d) (e f : ε) :
    Agree (refuseIf c e) (refuseIf d f) := by
  unfold Agree
  rw [refuseIf_eq_ok, refuseIf_eq_ok, h]

lemma agree_refuseSome {x y : Option ε} (h : x = none ↔ y = none) :
    Agree (refuseSome x) (refuseSome y) := by
  unfold Agree
  rw [refuseSome_eq_ok, refuseSome_eq_ok, h]

lemma agree_forM {α : Type*} {f g : α → Except ε Unit} {l : List α}
    (h : ∀ a ∈ l, Agree (f a) (g a)) : Agree (l.forM f) (l.forM g) := by
  unfold Agree
  rw [forM_eq_ok_iff, forM_eq_ok_iff]
  exact forall₂_congr h

/-- Both computations fail, or both succeed with related results. -/
inductive Related {α β : Type*} (R : α → β → Prop) : Except ε α → Except ε β → Prop
  | error (e f : ε) : Related R (.error e) (.error f)
  | ok {a : α} {b : β} (h : R a b) : Related R (.ok a) (.ok b)

lemma Related.andThen {α β : Type} {R : α → β → Prop} {x : Except ε α} {y : Except ε β}
    {k : α → Except ε Unit} {l : β → Except ε Unit} (h : Related R x y)
    (hk : ∀ a b, R a b → Agree (k a) (l b)) : Agree (x >>= k) (y >>= l) := by
  cases h with
  | error e f => exact ⟨nofun, nofun⟩
  | ok hab => exact hk _ _ hab

end Except
