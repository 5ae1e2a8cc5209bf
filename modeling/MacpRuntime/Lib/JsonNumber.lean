import MacpRuntime.Lib.JsonGrammar
import Mathlib.Algebra.Order.Field.Rat
import Mathlib.Data.List.DropRight
import Mathlib.Tactic.FieldSimp
import Mathlib.Tactic.Positivity
import Mathlib.Tactic.Ring

/-!
The exact value of a JSON number literal (`NumberValue`): the digits without the point, shifted
(`fraction_shift`), of which those between the first and the last that is not zero count.
-/

namespace Json

/-! ### Digits -/

variable (ds : List Char)

lemma ofDecimal_concat (d : Char) : ofDecimal (ds ++ [d]) = ofDecimal ds * 10 + (d.toNat - 48) := by
  rw [ofDecimal, List.foldl_append, ← ofDecimal]
  rfl

lemma ofDecimal_append (as bs : List Char) :
    ofDecimal (as ++ bs) = ofDecimal as * 10 ^ bs.length + ofDecimal bs := by
  induction bs using List.reverseRecOn with
  | nil => simp [ofDecimal]
  | append_singleton bs b ih =>
    rw [← List.append_assoc, ofDecimal_concat, ih, ofDecimal_concat, List.length_append,
      List.length_singleton, pow_succ]
    ring

lemma ofDecimal_cons (d : Char) (ds : List Char) :
    ofDecimal (d :: ds) = (d.toNat - 48) * 10 ^ ds.length + ofDecimal ds := by
  have happend := ofDecimal_append [d] ds
  rwa [show ofDecimal [d] = d.toNat - 48 by simp [ofDecimal]] at happend

/-- Zeros in front do not count. -/
lemma ofDecimal_dropWhile : ofDecimal (ds.dropWhile (· == '0')) = ofDecimal ds := by
  induction ds with
  | nil => rfl
  | cons d ds ih =>
    rw [List.dropWhile_cons]
    split_ifs with hzero
    · rw [beq_iff_eq] at hzero
      rw [ih, hzero]
      rfl
    · rfl

/-- Zeros at the end multiply by ten. -/
lemma ofDecimal_zeros (as : List Char) (k : ℕ) :
    ofDecimal (as ++ List.replicate k '0') = ofDecimal as * 10 ^ k := by
  have hzero : ofDecimal (List.replicate k '0') = 0 := by
    rw [← ofDecimal_dropWhile, List.dropWhile_eq_nil_iff.mpr (by simp)]
    rfl
  rw [ofDecimal_append, List.length_replicate, hzero, add_zero]

/-- Digits are their part without the zeros at the end, with the zeros put back. -/
lemma ofDecimal_rdropWhile :
    ofDecimal (ds.rdropWhile (· == '0'))
      * 10 ^ (ds.length - (ds.rdropWhile (· == '0')).length) = ofDecimal ds := by
  have happend : ds.rdropWhile (· == '0') ++ ds.rtakeWhile (· == '0') = ds :=
    List.rdropWhile_append_rtakeWhile
  have hzeros : ds.rtakeWhile (· == '0') = List.replicate (ds.rtakeWhile (· == '0')).length '0' :=
    List.eq_replicate_of_mem fun c hc => by simpa using List.mem_rtakeWhile_imp hc
  have hlength : ds.length - (ds.rdropWhile (· == '0')).length
      = (ds.rtakeWhile (· == '0')).length := by
    rw [← congrArg List.length happend, List.length_append, Nat.add_sub_cancel_left]
  rw [hlength, ← ofDecimal_zeros, ← hzeros, happend]

/-- A digit counts for less than ten. -/
lemma digit_lt {c : Char} (h : isDecimal c = true) : c.toNat - 48 < 10 := by
  simp only [isDecimal, Bool.and_eq_true, decide_eq_true_eq] at h
  omega

/-- A digit other than zero counts. -/
lemma digit_pos {c : Char} (h : isDecimal c = true) (hne : c ≠ '0') : 0 < c.toNat - 48 := by
  simp only [isDecimal, Bool.and_eq_true, decide_eq_true_eq] at h
  have hc : c.toNat ≠ 48 := fun hc => hne (Char.toNat_inj.mp hc)
  omega

lemma ofDecimal_lt {ds : List Char} (h : ∀ c ∈ ds, isDecimal c = true) :
    ofDecimal ds < 10 ^ ds.length := by
  induction ds using List.reverseRecOn with
  | nil => decide
  | append_singleton ds d ih =>
    have hds := ih fun c hc => h c (List.mem_append_left _ hc)
    have hd := digit_lt (h d (by simp))
    rw [ofDecimal_concat, List.length_append, List.length_singleton, pow_succ]
    omega

/-- The first digit, when it is not zero, bounds the number from below. -/
lemma le_ofDecimal {d : Char} {ds : List Char} (h : isDecimal d = true) (hne : d ≠ '0') :
    10 ^ ds.length ≤ ofDecimal (d :: ds) := by
  rw [ofDecimal_cons]
  exact (Nat.le_mul_of_pos_left _ (digit_pos h hne)).trans (Nat.le_add_right _ _)

/-- The last digit, when it is not zero, keeps the number from being divisible by ten. -/
lemma not_dvd_ofDecimal {d : Char} {ds : List Char} (h : isDecimal d = true) (hne : d ≠ '0') :
    ¬ 10 ∣ ofDecimal (ds ++ [d]) := by
  have hpos := digit_pos h hne
  have hlt := digit_lt h
  rw [ofDecimal_concat]
  omega

/-- Without the zeros in front, digits begin with none. -/
lemma head?_dropWhile_zeros : (ds.dropWhile (· == '0')).head? ≠ some '0' := by
  intro hhead
  have hnot := List.head?_dropWhile_not (· == '0') ds
  rw [hhead] at hnot
  simp at hnot

/-- Digits that begin with none that is zero, cut after the last that is not: what is left has as
many digits as it needs and is not divisible by ten. -/
lemma significant_spec {ds : List Char} (hall : ∀ c ∈ ds, isDecimal c = true) (hne : ds ≠ [])
    (hlead : ds.head? ≠ some '0') :
    10 ^ (ds.rdropWhile (· == '0')).length ≤ 10 * ofDecimal (ds.rdropWhile (· == '0'))
      ∧ ¬ 10 ∣ ofDecimal (ds.rdropWhile (· == '0')) := by
  obtain ⟨d, ds, rfl⟩ := List.exists_cons_of_ne_nil hne
  have hd : d ≠ '0' := by simpa using hlead
  have hkeep : (d :: ds).rdropWhile (· == '0') ≠ [] := by
    rw [Ne, List.rdropWhile_eq_nil_iff]
    exact fun hzeros => hd (by simpa using hzeros d List.mem_cons_self)
  have hlast := List.rdropWhile_last_not (· == '0') (d :: ds) hkeep
  have hpre := List.rdropWhile_prefix (· == '0') (d :: ds)
  generalize (d :: ds).rdropWhile (· == '0') = s at hkeep hlast hpre
  have hmem : ∀ c ∈ s, isDecimal c = true := fun c hc => hall c (hpre.subset hc)
  constructor
  · obtain ⟨c, t, rfl⟩ := List.exists_cons_of_ne_nil hkeep
    obtain ⟨rfl, -⟩ := List.cons_prefix_cons.mp hpre
    have hle : 10 ^ t.length ≤ ofDecimal (c :: t) := le_ofDecimal (hmem c List.mem_cons_self) hd
    rw [List.length_cons, pow_succ]
    omega
  · rw [← List.dropLast_append_getLast hkeep]
    exact not_dvd_ofDecimal (hmem _ (List.getLast_mem hkeep)) (by simpa using hlast)

/-! ### Literals -/

/-- The value of an exponent part. -/
def exponentValue : List Char → ℤ
  | [] => 0
  | _ :: '-' :: ds => -ofDecimal ds
  | _ :: '+' :: ds => ofDecimal ds
  | _ :: ds => ofDecimal ds

/-- The value of a fraction part. -/
def fractionValue (fraction : List Char) : ℚ := ofDecimal fraction.tail / 10 ^ fraction.tail.length

/-- The factor of a sign. -/
def signValue (sign : List Char) : ℤ := if sign = [] then 1 else -1

lemma signValue_mul_self (sign : List Char) : signValue sign * signValue sign = 1 := by
  rw [signValue]
  split_ifs <;> rfl

/-- A number literal with its exponent and the rational it denotes. -/
def NumberValue (cs : List Char) (e : ℤ) (q : ℚ) : Prop :=
  ∃ sign int fraction exponent, (sign = [] ∨ sign = ['-']) ∧ IntText int ∧ FractionText fraction
    ∧ ExponentText exponent ∧ cs = sign ++ (int ++ (fraction ++ exponent))
    ∧ e = exponentValue exponent
    ∧ q = signValue sign * ((ofDecimal int + fractionValue fraction) * 10 ^ e)

lemma NumberText.exists_value {cs : List Char} (h : NumberText cs) : ∃ e q, NumberValue cs e q := by
  obtain ⟨sign, int, fraction, exponent, hsign, hint, hfraction, hexponent, hcs⟩ := h
  exact ⟨_, _, sign, int, fraction, exponent, hsign, hint, hfraction, hexponent, hcs, rfl, rfl⟩

/-- The fraction digits follow those of the integer part, and shift the point. -/
lemma fraction_shift (int fraction : List Char) (e : ℤ) :
    ((ofDecimal int : ℚ) + fractionValue fraction) * 10 ^ e
      = ofDecimal (int ++ fraction.tail) * 10 ^ (e - fraction.tail.length) := by
  rw [ofDecimal_append, fractionValue, zpow_sub₀ (by norm_num), zpow_natCast]
  push_cast
  field_simp

/-- What is not divisible by ten and is shifted to an integer is not shifted down. -/
lemma nonneg_of_shift_eq {m : ℕ} {scale n : ℤ} (h10 : ¬ 10 ∣ m)
    (h : (m : ℚ) * 10 ^ scale = n) : 0 ≤ scale := by
  by_contra hneg
  obtain ⟨k, hk⟩ : ∃ k : ℕ, scale = -(k + 1 : ℕ) := ⟨(-scale - 1).toNat, by omega⟩
  have hm : (m : ℤ) = n * 10 ^ (k + 1) := by
    have hq : (m : ℚ) = n * 10 ^ (k + 1) := by
      rw [← h, hk, zpow_neg, zpow_natCast]
      field_simp
    exact_mod_cast hq
  refine h10 (Int.natCast_dvd_natCast.mp ⟨n * 10 ^ k, ?_⟩)
  rw [hm, pow_succ]
  push_cast
  ring

end Json
