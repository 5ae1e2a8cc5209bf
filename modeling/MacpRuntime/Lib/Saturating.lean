import Mathlib.Tactic

/-!
Saturating arithmetic on `Int64`, read through `toInt` as a `max`/`min` of integers, which is the
form `omega` works with.
-/

namespace Int64

/-- The exact sum, clamped to the range of `Int64`. -/
def saturatingAdd (a b : Int64) : Int64 :=
  Int64.ofInt (max (-2 ^ 63) (min (2 ^ 63 - 1) (a.toInt + b.toInt)))

/-- The exact difference, clamped to the range of `Int64`. -/
def saturatingSub (a b : Int64) : Int64 :=
  Int64.ofInt (max (-2 ^ 63) (min (2 ^ 63 - 1) (a.toInt - b.toInt)))

/-- A clamped integer is read back unchanged. -/
lemma toInt_ofInt_clamp (n : ℤ) :
    (Int64.ofInt (max (-2 ^ 63) (min (2 ^ 63 - 1) n))).toInt
      = max (-2 ^ 63) (min (2 ^ 63 - 1) n) :=
  Int64.toInt_ofInt_of_le (by omega) (by omega)

lemma toInt_saturatingAdd (a b : Int64) :
    (a.saturatingAdd b).toInt = max (-2 ^ 63) (min (2 ^ 63 - 1) (a.toInt + b.toInt)) := by
  rw [saturatingAdd, toInt_ofInt_clamp]

lemma toInt_saturatingSub (a b : Int64) :
    (a.saturatingSub b).toInt = max (-2 ^ 63) (min (2 ^ 63 - 1) (a.toInt - b.toInt)) := by
  rw [saturatingSub, toInt_ofInt_clamp]

/-- The maximum commutes with the reading. -/
lemma toInt_max (a b : Int64) : (max a b).toInt = max a.toInt b.toInt := by
  have hmax : max a b = if a ≤ b then b else a := rfl
  rw [hmax]
  split
  · rename_i h
    rw [Int64.le_iff_toInt_le] at h
    omega
  · rename_i h
    rw [Int64.le_iff_toInt_le] at h
    omega

/-- A difference that fits is exact. -/
lemma toInt_sub_of_fits {a b : Int64} (hlo : -2 ^ 63 ≤ a.toInt - b.toInt)
    (hhi : a.toInt - b.toInt < 2 ^ 63) : (a - b).toInt = a.toInt - b.toInt := by
  rw [Int64.toInt_sub, Int.bmod_eq_of_le] <;> omega

/-- Adding a non-negative amount only saturates upwards. -/
lemma toInt_saturatingAdd_of_nonneg (a : Int64) {b : Int64} (hb : 0 ≤ b.toInt) :
    (a.saturatingAdd b).toInt = min (2 ^ 63 - 1) (a.toInt + b.toInt) := by
  have ha := a.le_toInt
  rw [toInt_saturatingAdd]
  omega

/-- An unsigned number in the lower half keeps its value. -/
lemma toInt_toInt64_of_lt {n : UInt64} (h : n.toNat < 2 ^ 63) : n.toInt64.toInt = n.toNat := by
  have hbits : n.toInt64.toBitVec.toNat = n.toNat := rfl
  rw [← Int64.toInt_toBitVec, BitVec.toInt_eq_toNat_cond, hbits]
  split_ifs with hhalf
  · rfl
  · omega

end Int64
