import MacpRuntime.Lib.Double

/-!
Doubles up to the sign of zero.

The comparison `==` of doubles tells no zero from the other and is equality on the rest
(`unsign_eq_of_beq`).  `unsign` makes every zero positive, so that a function does not see the sign
of zero when it gives the same for a double and its `unsign`; it is enough to compare it at the two
zeros (`congr_unsign`).
-/

open Float.Model (UnpackedFloat)

namespace Double

variable (x : Float)

/-- A double with its sign removed when it is zero. -/
def unsign : Float := if x == 0 then 0 else x

lemma beq_zero_iff {x : Float} : (x == 0) = true ↔ x = 0 ∨ x = -0 := by
  rw [Float.beq_iff_ne_nan_and_eq]
  constructor
  · rintro ⟨-, -, h | ⟨h, -⟩ | ⟨h, -⟩⟩
    · exact .inl h
    · exact .inl h
    · exact .inr h
  · rintro (rfl | rfl)
    · exact ⟨by decide +kernel, by decide +kernel, .inl rfl⟩
    · exact ⟨by decide +kernel, by decide +kernel, .inr (.inr ⟨rfl, rfl⟩)⟩

/-- A function that gives the same at both zeros does not see the sign of zero. -/
lemma congr_unsign {α : Sort*} (f : Float → α) (h : f (-0) = f 0) (x : Float) :
    f (unsign x) = f x := by
  unfold unsign
  split_ifs with hzero
  · rcases beq_zero_iff.mp hzero with rfl | rfl
    · rfl
    · exact h.symm
  · rfl

lemma unsign_zero : unsign 0 = 0 := rfl

lemma unsign_neg_zero : unsign (-0) = 0 := by
  rw [unsign, if_pos (beq_zero_iff.mpr (.inr rfl))]

lemma unsign_of_ne {x : Float} (h : (x == 0) = false) : unsign x = x := by
  rw [unsign, if_neg (by rw [h]; decide)]

/-- Doubles that compare equal differ in the sign of zero at most. -/
lemma unsign_eq_of_beq {x y : Float} (h : (x == y) = true) : unsign x = unsign y := by
  rw [Float.beq_iff_ne_nan_and_eq] at h
  rcases h with ⟨-, -, rfl | ⟨rfl, rfl⟩ | ⟨rfl, rfl⟩⟩
  · rfl
  · rw [unsign_zero, unsign_neg_zero]
  · rw [unsign_zero, unsign_neg_zero]

/-! ### Readings -/

lemma unpack_neg_zero : (-0 : Float).toModel.unpack = .zero .negative := rfl

lemma compare_zero (s s' : UnpackedFloat.Sign) (u : UnpackedFloat) :
    UnpackedFloat.compare (.zero s) u = UnpackedFloat.compare (.zero s') u := by
  match u with
  | .notANumber => rfl
  | .infinity .positive => rfl
  | .infinity .negative => rfl
  | .zero _ => rfl
  | .finite .positive .. => rfl
  | .finite .negative .. => rfl

lemma compare_zero_right (s s' : UnpackedFloat.Sign) (u : UnpackedFloat) :
    UnpackedFloat.compare u (.zero s) = UnpackedFloat.compare u (.zero s') := by
  match u with
  | .notANumber => rfl
  | .infinity .positive => rfl
  | .infinity .negative => rfl
  | .zero _ => rfl
  | .finite .positive .. => rfl
  | .finite .negative .. => rfl

variable (y : Float)

@[simp] lemma unsign_lt : unsign x < y ↔ x < y := by
  refine Eq.to_iff (congr_unsign (fun x => x < y) (propext ?_) x)
  rw [lt_iff, lt_iff, unpack_zero, unpack_neg_zero, compare_zero]

@[simp] lemma lt_unsign : x < unsign y ↔ x < y := by
  refine Eq.to_iff (congr_unsign (fun y => x < y) (propext ?_) y)
  rw [lt_iff, lt_iff, unpack_zero, unpack_neg_zero, compare_zero_right]

@[simp] lemma unsign_le : unsign x ≤ y ↔ x ≤ y := by
  refine Eq.to_iff (congr_unsign (fun x => x ≤ y) (propext ?_) x)
  rw [le_iff, le_iff, unpack_zero, unpack_neg_zero, compare_zero]

@[simp] lemma le_unsign : x ≤ unsign y ↔ x ≤ y := by
  refine Eq.to_iff (congr_unsign (fun y => x ≤ y) (propext ?_) y)
  rw [le_iff, le_iff, unpack_zero, unpack_neg_zero, compare_zero_right]

lemma beq_eq : (x == y) = UnpackedFloat.beq x.toModel.unpack y.toModel.unpack := rfl

@[simp] lemma unsign_beq : (unsign x == y) = (x == y) := by
  refine congr_unsign (fun x => x == y) ?_ x
  rw [beq_eq, beq_eq, UnpackedFloat.beq, UnpackedFloat.beq, unpack_zero, unpack_neg_zero,
    compare_zero]

@[simp] lemma isNaN_unsign : (unsign x).isNaN = x.isNaN :=
  congr_unsign Float.isNaN rfl x

@[simp] lemma isFinite_unsign : (unsign x).isFinite = x.isFinite :=
  congr_unsign Float.isFinite rfl x

@[simp] lemma isWhole_unsign : isWhole (unsign x) = isWhole x :=
  congr_unsign isWhole rfl x

/-! ### Arithmetic -/

/-- What is packed from a zero is a zero. -/
lemma unsign_pack_zero (s : UnpackedFloat.Sign) : unsign ⟨Float.Model.pack (.zero s)⟩ = 0 := by
  cases s with
  | positive => exact unsign_zero
  | negative => exact unsign_neg_zero

/-- Adding to either zero gives the same up to the sign of zero. -/
lemma unsign_zero_add : unsign (-0 + y) = unsign (0 + y) := by
  change unsign ⟨Float.Model.pack (UnpackedFloat.add .binary64 (.zero .negative) y.toModel.unpack)⟩
    = unsign ⟨Float.Model.pack (UnpackedFloat.add .binary64 (.zero .positive) y.toModel.unpack)⟩
  match y.toModel.unpack with
  | .notANumber => rfl
  | .infinity _ => rfl
  | .finite .. => rfl
  | .zero .positive => rfl
  | .zero .negative => exact (unsign_pack_zero _).trans (unsign_pack_zero _).symm

lemma unsign_add_zero : unsign (x + -0) = unsign (x + 0) := by
  change unsign ⟨Float.Model.pack (UnpackedFloat.add .binary64 x.toModel.unpack (.zero .negative))⟩
    = unsign ⟨Float.Model.pack (UnpackedFloat.add .binary64 x.toModel.unpack (.zero .positive))⟩
  match x.toModel.unpack with
  | .notANumber => rfl
  | .infinity _ => rfl
  | .finite .. => rfl
  | .zero .positive => rfl
  | .zero .negative => exact (unsign_pack_zero _).trans (unsign_pack_zero _).symm

/-- A sum sees the signs of zeros in the sign of a zero at most. -/
lemma unsign_add : unsign (unsign x + unsign y) = unsign (x + y) := by
  rw [congr_unsign (fun x => unsign (x + unsign y)) (unsign_zero_add _) x]
  exact congr_unsign (fun y => unsign (x + y)) (unsign_add_zero x) y

lemma unsign_zero_div : unsign (-0 / y) = unsign (0 / y) := by
  change unsign ⟨Float.Model.pack (UnpackedFloat.div .binary64 (.zero .negative) y.toModel.unpack)⟩
    = unsign ⟨Float.Model.pack (UnpackedFloat.div .binary64 (.zero .positive) y.toModel.unpack)⟩
  match y.toModel.unpack with
  | .notANumber => rfl
  | .zero _ => rfl
  | .infinity _ => exact (unsign_pack_zero _).trans (unsign_pack_zero _).symm
  | .finite .. => exact (unsign_pack_zero _).trans (unsign_pack_zero _).symm

/-- So does a quotient in its numerator. -/
lemma unsign_div : unsign (unsign x / y) = unsign (x / y) :=
  congr_unsign (fun x => unsign (x / y)) (unsign_zero_div y) x

end Double
