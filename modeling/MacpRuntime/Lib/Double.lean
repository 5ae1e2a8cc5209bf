import MacpRuntime.Lib.FloatText
import Mathlib

/-!
Doubles and the rationals they stand for: `value` of a finite double, the 53 bits of its
significand, and the `Unsigned` doubles, whose sums stay unsigned, and to which adding zero changes
nothing (`add_zero_of_unsigned`).
-/

open Float.Model (UnpackedFloat)

namespace Double

/-- The rational a finite double stands for. -/
def value (x : Float) : ℚ :=
  match x.toModel.unpack with
  | .finite .positive m e _ => m * 2 ^ e
  | .finite .negative m e _ => -(m * 2 ^ e)
  | _ => 0

/-! ### Comparisons -/

lemma lt_iff {x y : Float} : x < y ↔ x.toModel.unpack.compare y.toModel.unpack = some .lt := by
  change x.lt y = true ↔ _
  rw [Float.lt, decide_eq_true_iff]
  change UnpackedFloat.lt x.toModel.unpack y.toModel.unpack = true ↔ _
  rw [UnpackedFloat.lt, beq_iff_eq]

lemma le_iff {x y : Float} :
    x ≤ y ↔ ∃ o, x.toModel.unpack.compare y.toModel.unpack = some o ∧ o.isLE = true := by
  change x.le y = true ↔ _
  rw [Float.le, decide_eq_true_iff]
  change UnpackedFloat.le x.toModel.unpack y.toModel.unpack = true ↔ _
  rw [UnpackedFloat.le, Option.any_eq_true]

lemma unpack_zero : (0 : Float).toModel.unpack = .zero .positive := rfl

/-- What does not lie below zero stands for no negative rational. -/
lemma value_nonneg {x : Float} (h : ¬ x ≤ 0) : 0 ≤ value x := by
  unfold value
  split
  · positivity
  · rename_i m e hm hx
    refine absurd (le_iff.mpr ⟨.lt, ?_, rfl⟩) h
    rw [hx, unpack_zero]
    rfl
  · exact le_rfl

/-! ### Significands -/

/-- A significand has 53 bits. -/
lemma mantissa_lt {x : Float} {s : UnpackedFloat.Sign} {m : ℕ} {e : ℤ} {hm : 0 < m}
    (h : x.toModel.unpack = .finite s m e hm) : m < 2 ^ 53 := by
  unfold Float.Model.unpack UnpackedFloat.unpack at h
  dsimp only at h
  split_ifs at h
  · cases h
    exact (BitVec.isLt _).trans (by decide)
  · cases h
    exact BitVec.isLt _

lemma unpack_hundred :
    (100 : Float).toModel.unpack = .finite .positive 7036874417766400 (-46) (by decide) := rfl

/-- What does not exceed 100 truncates to at most 100. -/
lemma truncTo_le_hundred {x : Float} (bound : ℕ) (h : ¬ 100 < x) : truncTo bound x ≤ 100 := by
  rw [lt_iff, unpack_hundred] at h
  unfold truncTo
  split
  · rename_i m e hm hx
    have hm53 := mantissa_lt hx
    rw [hx] at h
    simp only [UnpackedFloat.compare, Option.some.injEq, Ordering.then_eq_lt,
      Int.compare_eq_lt, Int.compare_eq_eq, Nat.compare_eq_lt, not_or, not_and, not_lt] at h
    obtain ⟨he, hsame⟩ := h
    refine (min_le_right _ _).trans ?_
    rw [if_neg (by omega)]
    -- at the exponent of 100 the significands decide, below it 53 bits are not enough
    rcases he.lt_or_eq with hlt | rfl
    · have hpow : 2 ^ 47 ≤ 2 ^ (-e).toNat := Nat.pow_le_pow_right (by decide) (by omega)
      refine (Nat.div_le_div_left hpow (by decide)).trans ?_
      omega
    · have := hsame rfl
      refine Nat.div_le_of_le_mul ?_
      simpa [mul_comm] using this
  · rename_i hx
    rw [hx] at h
    exact absurd rfl h
  · exact Nat.zero_le _

/-! ### Signs -/

/-- No negative sign. -/
def Plain : UnpackedFloat → Prop
  | .infinity .positive | .zero .positive | .finite .positive .. => True
  | _ => False

/-- A positive zero, a positive double or positive infinity. -/
def Unsigned (x : Float) : Prop := Plain x.toModel.unpack

lemma unsigned_zero : Unsigned 0 := trivial

/-- What is a number and not at most zero is unsigned. -/
lemma unsigned_of_not_le {x : Float} (h : ¬ x ≤ 0) (hnan : x.isNaN = false) : Unsigned x := by
  rw [le_iff, unpack_zero] at h
  change x.toModel.unpack.isNaN = false at hnan
  unfold Unsigned
  cases hx : x.toModel.unpack with
  | notANumber => simp [hx, UnpackedFloat.isNaN] at hnan
  | infinity s => cases s <;> simp_all [UnpackedFloat.compare, Plain]
  | zero s => simp [hx, UnpackedFloat.compare] at h
  | finite s m e hm => cases s <;> simp_all [UnpackedFloat.compare, Plain]

/-- The sign is the first bit of the packed form. -/
lemma plain_unpack_components (e : BitVec 11) (m : BitVec 52) (h : e = -1#11 → m = 0) :
    Plain (UnpackedFloat.unpack .binary64
      (UnpackedFloat.packComponents .binary64 .positive e m)) := by
  unfold UnpackedFloat.unpack
  simp only [UnpackedFloat.unpackExponent_packComponents,
    UnpackedFloat.unpackMantissa_packComponents, UnpackedFloat.unpackSign_packComponents,
    UnpackedFloat.Sign.ofBitVec_toBitVec]
  split_ifs with he hm
  · trivial
  · exact absurd (h he) hm
  all_goals trivial

/-- Rounding to the format keeps the sign. -/
lemma plain_unpack_pack {u : UnpackedFloat} (h : Plain u) : Plain (Float.Model.pack u).unpack := by
  change Plain (UnpackedFloat.unpack .binary64 (UnpackedFloat.pack .binary64 u))
  match u, h with
  | .infinity .positive, _ => exact plain_unpack_components _ _ fun _ => rfl
  | .zero .positive, _ => exact plain_unpack_components _ _ fun _ => rfl
  | .finite .positive m e hm, _ =>
    unfold UnpackedFloat.pack
    dsimp only
    split_ifs with hbig hbits
    · exact plain_unpack_components _ _ fun _ => rfl
    · refine plain_unpack_components _ _ fun he => absurd (congrArg BitVec.toNat he) ?_
      simp at hbig ⊢
      omega
    · exact plain_unpack_components _ _ fun he => absurd he (by decide)

lemma plain_round {m : ℕ} {e : ℤ} : Plain (UnpackedFloat.round .binary64 .positive m e) := by
  unfold UnpackedFloat.round UnpackedFloat.roundWithAccuracy
  dsimp only
  split_ifs <;> trivial

lemma plain_add {u v : UnpackedFloat} (hu : Plain u) (hv : Plain v) :
    Plain (UnpackedFloat.add .binary64 u v) := by
  match u, v, hu, hv with
  | .infinity .positive, .infinity .positive, _, _ => trivial
  | .infinity .positive, .zero .positive, _, _ => trivial
  | .infinity .positive, .finite .positive .., _, _ => trivial
  | .zero .positive, .infinity .positive, _, _ => trivial
  | .zero .positive, .zero .positive, _, _ => trivial
  | .zero .positive, .finite .positive .., _, _ => trivial
  | .finite .positive .., .infinity .positive, _, _ => trivial
  | .finite .positive .., .zero .positive, _, _ => trivial
  | .finite .positive m e _, .finite .positive m' e' _, _, _ =>
    simp only [UnpackedFloat.add, UnpackedFloat.normalize, UnpackedFloat.decreaseExponent,
      UnpackedFloat.Sign.apply]
    split
    · rename_i h
      exact absurd (Int.compare_eq_lt.mp h) (not_lt.mpr (by positivity))
    · trivial
    · exact plain_round

/-- A sum of unsigned doubles is unsigned. -/
lemma Unsigned.add {x y : Float} (hx : Unsigned x) (hy : Unsigned y) : Unsigned (x + y) :=
  plain_unpack_pack (plain_add hx hy)

/-- Zero adds nothing. -/
lemma add_zero_of_unsigned {x : Float} (h : Unsigned x) : x + 0 = x := by
  have hadd : UnpackedFloat.add .binary64 x.toModel.unpack (.zero .positive)
      = x.toModel.unpack := by
    unfold Unsigned at h
    match hx : x.toModel.unpack, h with
    | .infinity .positive, _ => rfl
    | .zero .positive, _ => rfl
    | .finite .positive .., _ => rfl
  rw [← Float.toBits_inj]
  change (Float.Model.pack (UnpackedFloat.add .binary64 x.toModel.unpack _)).toBits = x.toBits
  rw [unpack_zero, hadd]
  exact congrArg UInt64.ofBitVec (UnpackedFloat.pack_unpack_of_valid x.toModel.valid)

end Double
