import MacpRuntime.Lib.JsonNumber

/-!
The integers of a JSON request (`src/http/json/decode.rs`): an integer is judged by the digits of
its text and never by a rounded double.  `isJsonNumber` is the grammar of JSON numbers, and
`decimal_integer_exact`: **what `parseDecimalInteger` returns is the exact value of the text**, and
every text of an integer below 10^38 is read, however it is written.
-/

namespace MacpRuntime.Http

open Json

/-! ### The grammar -/

/-- At least one digit, and what follows the digits. -/
def afterDigits : List Char → Option (List Char)
  | d :: ds => if isDecimal d then some (ds.dropWhile isDecimal) else none
  | [] => none

/-- What follows the integer part; a leading zero stands alone. -/
def afterInteger : List Char → Option (List Char)
  | '0' :: cs => some cs
  | cs => afterDigits cs

/-- What follows the fraction, if there is one. -/
def afterFraction : List Char → Option (List Char)
  | '.' :: cs => afterDigits cs
  | cs => some cs

/-- The exponent without its sign. -/
def dropSign : List Char → List Char
  | '+' :: cs => cs
  | '-' :: cs => cs
  | cs => cs

/-- What follows the exponent, if there is one. -/
def afterExponent : List Char → Option (List Char)
  | 'e' :: cs => afterDigits (dropSign cs)
  | 'E' :: cs => afterDigits (dropSign cs)
  | cs => some cs

/-- `strip_prefix('-')`: whether there is a minus sign, and what follows it. -/
def stripMinus : List Char → Bool × List Char
  | '-' :: cs => (true, cs)
  | cs => (false, cs)

/-- The grammar `-?(0|[1-9][0-9]*)(\.[0-9]+)?([eE][+-]?[0-9]+)?`. -/
def isJsonNumber (cs : List Char) : Bool :=
  ((afterInteger (stripMinus cs).2).bind afterFraction).bind afterExponent == some []

/-! ### The scan accepts the grammar -/

/-- What follows the digits does not begin with one. -/
def PastDigits (rest : List Char) : Prop := ∀ c ∈ rest.head?, isDecimal c = false

variable {rest cs int fraction exponent significant : List Char} {c : Char}

lemma dropWhile_of_pastDigits (h : PastDigits rest) : rest.dropWhile isDecimal = rest := by
  cases rest with
  | nil => rfl
  | cons c rest => rw [List.dropWhile_cons, h c rfl, if_neg (by decide)]

lemma pastDigits_cons (h : isDecimal c = false) (rest : List Char) : PastDigits (c :: rest) := by
  intro d hd
  rw [List.head?_cons, Option.mem_some_iff] at hd
  rw [← hd, h]

/-- The digits are as many as possible. -/
lemma afterDigits_eq_some :
    afterDigits cs = some rest ↔ ∃ ds, Digits ds ∧ cs = ds ++ rest ∧ PastDigits rest := by
  constructor
  · intro h
    cases cs with
    | nil => cases h
    | cons d ds =>
      rw [afterDigits] at h
      split_ifs at h with hd
      cases h
      refine ⟨d :: ds.takeWhile isDecimal, ⟨List.cons_ne_nil _ _, ?_⟩, ?_, ?_⟩
      · exact List.forall_mem_cons.mpr ⟨hd, fun c hc => List.mem_takeWhile_imp hc⟩
      · rw [List.cons_append, List.takeWhile_append_dropWhile]
      · intro c hc
        have hnot := List.head?_dropWhile_not isDecimal ds
        rw [Option.mem_def.mp hc] at hnot
        simpa using hnot
  · rintro ⟨ds, ⟨hne, hall⟩, rfl, hpast⟩
    obtain ⟨d, ds, rfl⟩ := List.exists_cons_of_ne_nil hne
    obtain ⟨hd, hds⟩ := List.forall_mem_cons.mp hall
    rw [List.cons_append, afterDigits, if_pos hd, List.dropWhile_append_of_pos hds,
      dropWhile_of_pastDigits hpast]

/-- A digit is none of the marks of a number's text. -/
lemma ne_of_isDecimal (h : isDecimal c = true) :
    c ≠ '-' ∧ c ≠ '+' ∧ c ≠ '.' ∧ c ≠ 'e' ∧ c ≠ 'E' := by
  refine ⟨?_, ?_, ?_, ?_, ?_⟩ <;>
    (rintro rfl; cases h)

lemma stripMinus_of_ne (h : c ≠ '-') : stripMinus (c :: cs) = (false, c :: cs) := by
  unfold stripMinus
  split
  · rename_i heq
    exact absurd (List.cons.inj heq).1 h
  · rfl

lemma dropSign_of_isDecimal (h : isDecimal c = true) : dropSign (c :: cs) = c :: cs := by
  unfold dropSign
  split
  · rename_i heq
    exact absurd (List.cons.inj heq).1 (ne_of_isDecimal h).2.1
  · rename_i heq
    exact absurd (List.cons.inj heq).1 (ne_of_isDecimal h).1
  · rfl

/-- The scan of an integer part finds one. -/
lemma intText_of_afterInteger (h : afterInteger cs = some rest) :
    ∃ int, IntText int ∧ cs = int ++ rest := by
  unfold afterInteger at h
  split at h
  · cases h
    exact ⟨['0'], .inl rfl, rfl⟩
  · rename_i hzero
    obtain ⟨ds, hds, rfl, -⟩ := afterDigits_eq_some.mp h
    refine ⟨ds, .inr ⟨hds, fun hlead => ?_⟩, rfl⟩
    obtain ⟨d, ds, rfl⟩ := List.exists_cons_of_ne_nil hds.1
    rw [List.head?_cons, Option.some.injEq] at hlead
    exact hzero _ (by rw [hlead]; rfl)

lemma afterInteger_append (h : IntText int) (hpast : PastDigits rest) :
    afterInteger (int ++ rest) = some rest := by
  rcases h with rfl | ⟨hdigits, hlead⟩
  · rfl
  · unfold afterInteger
    split
    · rename_i heq
      obtain ⟨d, ds, rfl⟩ := List.exists_cons_of_ne_nil hdigits.1
      rw [List.cons_append, List.cons.injEq] at heq
      exact absurd (congrArg some heq.1) hlead
    · exact afterDigits_eq_some.mpr ⟨int, hdigits, rfl, hpast⟩

/-- The scan of a fraction finds one, or none. -/
lemma fractionText_of_afterFraction (h : afterFraction cs = some rest) :
    ∃ fraction, FractionText fraction ∧ cs = fraction ++ rest := by
  unfold afterFraction at h
  split at h
  · obtain ⟨ds, hds, rfl, -⟩ := afterDigits_eq_some.mp h
    exact ⟨'.' :: ds, .inr ⟨ds, hds, rfl⟩, rfl⟩
  · cases h
    exact ⟨[], .inl rfl, rfl⟩

lemma afterFraction_append (h : FractionText fraction) (hpast : PastDigits rest)
    (hpoint : rest.head? ≠ some '.') : afterFraction (fraction ++ rest) = some rest := by
  rcases h with rfl | ⟨ds, hds, rfl⟩
  · rw [List.nil_append]
    unfold afterFraction
    split
    · exact absurd rfl hpoint
    · rfl
  · exact afterDigits_eq_some.mpr ⟨ds, hds, rfl, hpast⟩

/-- The scan of an exponent that ends the text finds one, or nothing. -/
lemma afterExponent_eq_nil : afterExponent cs = some [] ↔ ExponentText cs := by
  have hdigits {cs : List Char} : afterDigits (dropSign cs) = some [] ↔
      ∃ sign ds, (sign = [] ∨ sign = ['+'] ∨ sign = ['-']) ∧ Digits ds ∧ cs = sign ++ ds := by
    constructor
    · intro h
      obtain ⟨ds, hds, heq, -⟩ := afterDigits_eq_some.mp h
      rw [List.append_nil] at heq
      unfold dropSign at heq
      split at heq
      · exact ⟨['+'], ds, .inr (.inl rfl), hds, by rw [heq]; rfl⟩
      · exact ⟨['-'], ds, .inr (.inr rfl), hds, by rw [heq]; rfl⟩
      · exact ⟨[], ds, .inl rfl, hds, heq⟩
    · rintro ⟨sign, ds, hsign, hds, rfl⟩
      have hdrop : dropSign (sign ++ ds) = ds := by
        rcases hsign with rfl | rfl | rfl
        · obtain ⟨d, ds, rfl⟩ := List.exists_cons_of_ne_nil hds.1
          exact dropSign_of_isDecimal (hds.2 d List.mem_cons_self)
        · rfl
        · rfl
      rw [hdrop]
      exact afterDigits_eq_some.mpr ⟨ds, hds, (List.append_nil ds).symm, by simp [PastDigits]⟩
  constructor
  · intro h
    unfold afterExponent at h
    split at h
    · obtain ⟨sign, ds, hsign, hds, rfl⟩ := hdigits.mp h
      exact .inr ⟨'e', sign, ds, .inl rfl, hsign, hds, rfl⟩
    · obtain ⟨sign, ds, hsign, hds, rfl⟩ := hdigits.mp h
      exact .inr ⟨'E', sign, ds, .inr rfl, hsign, hds, rfl⟩
    · exact .inl (Option.some.inj h)
  · rintro (rfl | ⟨e, sign, ds, rfl | rfl, hsign, hds, rfl⟩)
    · rfl
    · exact hdigits.mpr ⟨sign, ds, hsign, hds, rfl⟩
    · exact hdigits.mpr ⟨sign, ds, hsign, hds, rfl⟩

/-- What may follow an integer part begins with no digit. -/
lemma pastDigits_exponent (h : ExponentText exponent) :
    PastDigits exponent ∧ exponent.head? ≠ some '.' := by
  rcases h with rfl | ⟨e, sign, ds, rfl | rfl, -, -, rfl⟩
  · exact ⟨by simp [PastDigits], by simp⟩
  · exact ⟨pastDigits_cons rfl _, by simp⟩
  · exact ⟨pastDigits_cons rfl _, by simp⟩

lemma pastDigits_fraction (h : FractionText fraction) (hrest : PastDigits rest) :
    PastDigits (fraction ++ rest) := by
  rcases h with rfl | ⟨ds, -, rfl⟩
  · exact hrest
  · exact pastDigits_cons rfl _

lemma intText_head (h : IntText int) : ∃ d ds, int = d :: ds ∧ isDecimal d = true := by
  rcases h with rfl | ⟨hdigits, -⟩
  · exact ⟨'0', [], rfl, rfl⟩
  · obtain ⟨d, ds, rfl⟩ := List.exists_cons_of_ne_nil hdigits.1
    exact ⟨d, ds, rfl, hdigits.2 d List.mem_cons_self⟩

lemma stripMinus_append {sign : List Char} (hsign : sign = [] ∨ sign = ['-']) (hint : IntText int)
    (rest : List Char) :
    stripMinus (sign ++ (int ++ rest)) = (decide (sign = ['-']), int ++ rest) := by
  rcases hsign with rfl | rfl
  · obtain ⟨d, ds, rfl, hd⟩ := intText_head hint
    rw [List.nil_append, List.cons_append, stripMinus_of_ne (ne_of_isDecimal hd).1]
    rfl
  · rfl

/-- **The scan accepts exactly the grammar of numbers.** -/
theorem isJsonNumber_iff (cs : List Char) : isJsonNumber cs = true ↔ NumberText cs := by
  rw [isJsonNumber, beq_iff_eq]
  constructor
  · intro h
    obtain ⟨rest, hrest, hexponent⟩ := Option.bind_eq_some_iff.mp h
    obtain ⟨rest', hafter, hafter'⟩ := Option.bind_eq_some_iff.mp hrest
    obtain ⟨int, hint, hcs⟩ := intText_of_afterInteger hafter
    obtain ⟨fraction, hfraction, rfl⟩ := fractionText_of_afterFraction hafter'
    refine ⟨if (stripMinus cs).1 then ['-'] else [], int, fraction, rest, ?_, hint, hfraction,
      afterExponent_eq_nil.mp hexponent, ?_⟩
    · split_ifs <;> simp
    · rw [← hcs]
      unfold stripMinus
      split <;> rfl
  · rintro ⟨sign, int, fraction, exponent, hsign, hint, hfraction, hexponent, rfl⟩
    obtain ⟨hpast, hpoint⟩ := pastDigits_exponent hexponent
    rw [stripMinus_append hsign hint,
      afterInteger_append hint (pastDigits_fraction hfraction hpast), Option.bind_some,
      afterFraction_append hfraction hpast hpoint, Option.bind_some]
    exact afterExponent_eq_nil.mpr hexponent

/-! ### Integers -/

/-- The largest `i128`. -/
def maxInt128 : ℕ := 2 ^ 127 - 1

variable (debug : String → String)

/-- `s` for an error message, cut to 64 characters; `debug` is the formatting of a string by
`{:?}`. -/
def shown (s : String) : String :=
  if 64 < s.toList.length then debug (String.ofList (s.toList.take 64)) ++ "…" else debug s

/-- `str::parse::<i64>`. -/
def parseInt64 (cs : List Char) : Option ℤ :=
  let digits := dropSign cs
  if digits ≠ [] ∧ digits.all isDecimal then
    let n : ℤ := if cs.head? = some '-' then -ofDecimal digits else ofDecimal digits
    if -2 ^ 63 ≤ n ∧ n < 2 ^ 63 then some n else none
  else none

/-- What begins an exponent. -/
def isExponentMark (c : Char) : Bool := c == 'e' || c == 'E'

/-- The mantissa and the exponent, which is zero if there is none. -/
def splitExponent (rest : List Char) : List Char × List Char :=
  (rest.takeWhile (!isExponentMark ·),
    match rest.dropWhile (!isExponentMark ·) with
    | _ :: exponent => exponent
    | [] => ['0'])

/-- The digits before the point and those after it. -/
def splitPoint (mantissa : List Char) : List Char × List Char :=
  (mantissa.takeWhile (· != '.'), (mantissa.dropWhile (· != '.')).tail)

/-- `scale` multiplications by ten, each of them checked. -/
def scaleUp : ℕ → ℕ → Option ℕ
  | 0, n => some n
  | scale + 1, n => if n * 10 ≤ maxInt128 then scaleUp scale (n * 10) else none

/-- The exact integer of a number's text; a value that is not integral is an error.  (The absolute
value of the least `i64` overflows; a build that does not check for it goes on and refuses the
number all the same.) -/
def parseDecimalInteger (s : String) : Except String ℤ :=
  if !isJsonNumber s.toList then .error s!"{shown debug s} is not a decimal integer"
  else
    let (negative, rest) := stripMinus s.toList
    let (mantissa, exponent) := splitExponent rest
    let (intPart, fracPart) := splitPoint mantissa
    let digits := (intPart ++ fracPart).dropWhile (· == '0')
    if digits.isEmpty then .ok 0
    else
      match (parseInt64 (exponent.dropWhile (· == '+'))).filter fun e => e.natAbs ≤ 1000 with
      | none => .error s!"{shown debug s} is out of range"
      | some exponent =>
        -- zeros at the end of the digits are popped, and count for the scale
        let significant := digits.rdropWhile (· == '0')
        let scale : ℤ := exponent - fracPart.length + (digits.length - significant.length : ℕ)
        if scale < 0 then .error s!"{shown debug s} is not an integer"
        else if 39 < (significant.length : ℤ) + scale then
          .error s!"{shown debug s} is out of range"
        else if maxInt128 < ofDecimal significant then
          .error s!"{shown debug s} is out of range"
        else
          match scaleUp scale.toNat (ofDecimal significant) with
          | none => .error s!"{shown debug s} is out of range"
          | some n => .ok (if negative then -n else n)

example : parseDecimalInteger id "-1.50e2" = .ok (-150) := by decide

example : parseDecimalInteger id "10000e-1" = .ok 1000 := by decide

/-! ### The parts of a number -/

lemma splitExponent_append {mantissa : List Char}
    (hmantissa : ∀ c ∈ mantissa, isExponentMark c = false) (hexponent : ExponentText exponent) :
    splitExponent (mantissa ++ exponent)
      = (mantissa, if exponent = [] then ['0'] else exponent.tail) := by
  have hkeep : ∀ c ∈ mantissa, (!isExponentMark c) = true := fun c hc => by rw [hmantissa c hc]; rfl
  rw [splitExponent, List.takeWhile_append_of_pos hkeep, List.dropWhile_append_of_pos hkeep]
  rcases hexponent with rfl | ⟨e, sign, ds, he, -, -, rfl⟩
  · simp
  · have hmark : (!isExponentMark e) = false := by rcases he with rfl | rfl <;> rfl
    rw [List.takeWhile_cons, List.dropWhile_cons, hmark]
    simp

lemma splitPoint_append (hint : ∀ c ∈ int, c ≠ '.') (hfraction : FractionText fraction) :
    splitPoint (int ++ fraction) = (int, fraction.tail) := by
  have hkeep : ∀ c ∈ int, (c != '.') = true := fun c hc => bne_iff_ne.mpr (hint c hc)
  rw [splitPoint, List.takeWhile_append_of_pos hkeep, List.dropWhile_append_of_pos hkeep]
  rcases hfraction with rfl | ⟨ds, -, rfl⟩
  · simp
  · rw [List.takeWhile_cons, List.dropWhile_cons]
    simp

/-- Digits without a sign are read to their value, when it is an `i64`. -/
lemma parseInt64_digits {ds : List Char} (h : Digits ds) :
    parseInt64 ds
      = if -2 ^ 63 ≤ (ofDecimal ds : ℤ) ∧ (ofDecimal ds : ℤ) < 2 ^ 63
        then some (ofDecimal ds : ℤ) else none := by
  obtain ⟨d, ds, rfl⟩ := List.exists_cons_of_ne_nil h.1
  have hd := h.2 d List.mem_cons_self
  have hminus : (d :: ds).head? ≠ some '-' := by simpa using (ne_of_isDecimal hd).1
  rw [parseInt64, dropSign_of_isDecimal hd, if_pos ⟨h.1, List.all_eq_true.mpr h.2⟩]
  simp only [if_neg hminus]

/-- The exponent that is read is the value of the exponent part, when it is an `i64`. -/
lemma parseInt64_exponent (h : ExponentText exponent) :
    parseInt64 ((if exponent = [] then ['0'] else exponent.tail).dropWhile (· == '+'))
      = if -2 ^ 63 ≤ exponentValue exponent ∧ exponentValue exponent < 2 ^ 63
        then some (exponentValue exponent) else none := by
  rcases h with rfl | ⟨e, sign, ds, -, hsign, hds, rfl⟩
  · decide
  · obtain ⟨d, ds, rfl⟩ := List.exists_cons_of_ne_nil hds.1
    have hd := hds.2 d List.mem_cons_self
    obtain ⟨hminus, hplus, -⟩ := ne_of_isDecimal hd
    have hdrop : (d :: ds).dropWhile (· == '+') = d :: ds := by
      rw [List.dropWhile_cons, if_neg (by simpa using hplus)]
    rw [if_neg (by simp), List.tail_cons]
    rcases hsign with rfl | rfl | rfl
    · have hvalue : exponentValue (e :: ([] ++ d :: ds)) = ofDecimal (d :: ds) := by
        rw [List.nil_append]
        unfold exponentValue
        split
        · rename_i heq
          cases heq
        · rename_i heq
          exact absurd (List.cons.inj (List.cons.inj heq).2).1 hminus
        · rename_i heq
          exact absurd (List.cons.inj (List.cons.inj heq).2).1 hplus
        · rename_i heq
          rw [(List.cons.inj heq).2]
      rw [hvalue, List.nil_append, hdrop, parseInt64_digits hds]
    · have hvalue : exponentValue (e :: (['+'] ++ d :: ds)) = ofDecimal (d :: ds) := rfl
      have hskip : (['+'] ++ d :: ds).dropWhile (· == '+') = d :: ds := by
        rw [List.singleton_append, List.dropWhile_cons, if_pos (by decide), hdrop]
      rw [hvalue, hskip, parseInt64_digits hds]
    · have hvalue : exponentValue (e :: (['-'] ++ d :: ds)) = -ofDecimal (d :: ds) := rfl
      have hskip : (['-'] ++ d :: ds).dropWhile (· == '+') = '-' :: d :: ds := by
        rw [List.singleton_append, List.dropWhile_cons, if_neg (by decide)]
      have hsign : dropSign ('-' :: d :: ds) = d :: ds := rfl
      rw [hvalue, hskip, parseInt64, hsign,
        if_pos ⟨List.cons_ne_nil _ _, List.all_eq_true.mpr hds.2⟩]
      rfl

/-- The checked multiplications give the product, when it is an `i128`. -/
lemma scaleUp_eq (scale : ℕ) {n : ℕ} (hn : n ≤ maxInt128) :
    scaleUp scale n = if n * 10 ^ scale ≤ maxInt128 then some (n * 10 ^ scale) else none := by
  induction scale generalizing n with
  | zero => rw [scaleUp, pow_zero, mul_one, if_pos hn]
  | succ scale ih =>
    have hassoc : n * 10 ^ (scale + 1) = n * 10 * 10 ^ scale := by ring
    rw [scaleUp, hassoc]
    split_ifs with hstep hall hall
    · rw [ih hstep, if_pos hall]
    · rw [ih hstep, if_neg hall]
    · exact absurd ((Nat.le_mul_of_pos_right _ (by positivity)).trans hall) hstep
    · rfl

/-- The digits of an integer part and a fraction. -/
lemma isDecimal_of_parts (hint : IntText int) (hfraction : FractionText fraction) :
    ∀ c ∈ int ++ fraction.tail, isDecimal c = true := by
  intro c hc
  rcases List.mem_append.mp hc with hc | hc
  · rcases hint with rfl | ⟨hdigits, -⟩
    · rw [List.mem_singleton.mp hc]
      rfl
    · exact hdigits.2 c hc
  · rcases hfraction with rfl | ⟨ds, hds, rfl⟩
    · cases hc
    · exact hds.2 c hc

/-- What is read of a number with the given parts. -/
lemma parseDecimalInteger_parts {s : String} {sign : List Char}
    (hsign : sign = [] ∨ sign = ['-']) (hint : IntText int) (hfraction : FractionText fraction)
    (hexponent : ExponentText exponent) (hs : s.toList = sign ++ (int ++ (fraction ++ exponent)))
    {digits : List Char} {e scale : ℤ}
    (hdigits : digits = (int ++ fraction.tail).dropWhile (· == '0'))
    (hsignificant : significant = digits.rdropWhile (· == '0')) (he : e = exponentValue exponent)
    (hscale : scale = e - fraction.tail.length + (digits.length - significant.length : ℕ)) :
    parseDecimalInteger debug s
      = if digits = [] then .ok 0
        else if 1000 < e.natAbs then .error s!"{shown debug s} is out of range"
        else if scale < 0 then .error s!"{shown debug s} is not an integer"
        else if 39 < (significant.length : ℤ) + scale then
          .error s!"{shown debug s} is out of range"
        else if maxInt128 < ofDecimal significant * 10 ^ scale.toNat then
          .error s!"{shown debug s} is out of range"
        else .ok (signValue sign * (ofDecimal significant * 10 ^ scale.toNat)) := by
  have hnumber : isJsonNumber s.toList = true :=
    (isJsonNumber_iff _).mpr ⟨sign, int, fraction, exponent, hsign, hint, hfraction, hexponent, hs⟩
  have hmantissa : ∀ c ∈ int ++ fraction, isExponentMark c = false := by
    intro c hc
    have hdecimal {c : Char} (h : isDecimal c = true) : isExponentMark c = false := by
      obtain ⟨-, -, -, he, hE⟩ := ne_of_isDecimal h
      simp [isExponentMark, he, hE]
    rcases List.mem_append.mp hc with hc | hc
    · exact hdecimal (isDecimal_of_parts hint hfraction c (List.mem_append_left _ hc))
    · rcases hfraction with rfl | ⟨ds, hds, rfl⟩
      · cases hc
      · rcases List.mem_cons.mp hc with rfl | hc
        · rfl
        · exact hdecimal (hds.2 c hc)
  have hint' : ∀ c ∈ int, c ≠ '.' := fun c hc =>
    (ne_of_isDecimal (isDecimal_of_parts hint (.inl rfl) c (List.mem_append_left _ hc))).2.2.1
  have hfilter : (parseInt64 ((if exponent = [] then ['0'] else exponent.tail).dropWhile
      (· == '+'))).filter (fun e => e.natAbs ≤ 1000)
      = if 1000 < e.natAbs then none else some e := by
    rw [parseInt64_exponent hexponent, ← he]
    split_ifs with hfits hlarge hlarge
    · rw [Option.filter_some, if_neg (by simpa using hlarge)]
    · rw [Option.filter_some, if_pos (by simpa using hlarge)]
    · rfl
    · omega
  unfold parseDecimalInteger
  rw [hnumber, hs, stripMinus_append hsign hint, ← List.append_assoc int]
  simp only [splitExponent_append hmantissa hexponent, splitPoint_append hint' hfraction, ← hdigits,
    ← hsignificant, hfilter]
  rw [Bool.not_true, if_neg Bool.false_ne_true]
  by_cases hempty : digits = []
  · rw [if_pos hempty, if_pos (List.isEmpty_iff.mpr hempty)]
  rw [if_neg hempty, if_neg (mt List.isEmpty_iff.mp hempty)]
  by_cases hlarge : 1000 < e.natAbs
  · simp only [if_pos hlarge]
  simp only [if_neg hlarge, ← hscale]
  by_cases hneg : scale < 0
  · rw [if_pos hneg, if_pos hneg]
  rw [if_neg hneg, if_neg hneg]
  by_cases hlong : 39 < (significant.length : ℤ) + scale
  · rw [if_pos hlong, if_pos hlong]
  rw [if_neg hlong, if_neg hlong]
  have hle : ofDecimal significant ≤ ofDecimal significant * 10 ^ scale.toNat :=
    Nat.le_mul_of_pos_right _ (by positivity)
  by_cases hfits : maxInt128 < ofDecimal significant * 10 ^ scale.toNat
  · rw [if_pos hfits]
    -- the digits alone may be too large already
    by_cases halone : maxInt128 < ofDecimal significant
    · rw [if_pos halone]
    · rw [if_neg halone, scaleUp_eq _ (not_lt.mp halone), if_neg (not_le.mpr hfits)]
  · rw [if_neg hfits, if_neg (fun halone => hfits (halone.trans_le hle)),
      scaleUp_eq _ (hle.trans (not_lt.mp hfits)), if_pos (not_lt.mp hfits)]
    rcases hsign with rfl | rfl <;> simp [signValue]

/-! ### Exactness -/

/-- **The value of a number is its significant digits, shifted by the scale.** -/
lemma value_eq_shift {digits : List Char} {e scale : ℤ}
    (hdigits : digits = (int ++ fraction.tail).dropWhile (· == '0'))
    (hsignificant : significant = digits.rdropWhile (· == '0'))
    (hscale : scale = e - fraction.tail.length + (digits.length - significant.length : ℕ)) :
    ((ofDecimal int : ℚ) + fractionValue fraction) * 10 ^ e
      = ofDecimal significant * 10 ^ scale := by
  have hzeros : ofDecimal significant * 10 ^ (digits.length - significant.length)
      = ofDecimal (int ++ fraction.tail) := by
    rw [hsignificant, ofDecimal_rdropWhile, hdigits, ofDecimal_dropWhile]
  rw [fraction_shift, ← hzeros, hscale, zpow_add₀ (by norm_num), zpow_natCast]
  push_cast
  ring

/-- Digits whose shift is an integer below 10^38 pass every check. -/
lemma shift_in_range {scale n : ℤ} (hlength : 10 ^ significant.length ≤ 10 * ofDecimal significant)
    (h10 : ¬ 10 ∣ ofDecimal significant) (hn : (ofDecimal significant : ℚ) * 10 ^ scale = n)
    (hbound : n < 10 ^ 38) :
    0 ≤ scale ∧ (significant.length : ℤ) + scale ≤ 39
      ∧ ofDecimal significant * 10 ^ scale.toNat ≤ maxInt128
      ∧ (ofDecimal significant * 10 ^ scale.toNat : ℤ) = n := by
  have hscale := nonneg_of_shift_eq h10 hn
  obtain ⟨k, rfl⟩ := Int.eq_ofNat_of_zero_le hscale
  rw [zpow_natCast] at hn
  have hprod : (ofDecimal significant * 10 ^ k : ℤ) = n := by exact_mod_cast hn
  have hlt : ofDecimal significant * 10 ^ k < 10 ^ 38 := by
    have : ((ofDecimal significant * 10 ^ k : ℕ) : ℤ) < 10 ^ 38 := by
      push_cast
      rwa [hprod]
    exact_mod_cast this
  refine ⟨hscale, ?_, ?_, hprod⟩
  · -- as many digits as that make a number that large
    have hpow : 10 ^ (significant.length + k) < 10 ^ 39 := by
      calc 10 ^ (significant.length + k) = 10 ^ significant.length * 10 ^ k := pow_add _ _ _
        _ ≤ 10 * ofDecimal significant * 10 ^ k := Nat.mul_le_mul_right _ hlength
        _ = 10 * (ofDecimal significant * 10 ^ k) := mul_assoc _ _ _
        _ < 10 ^ 39 := by omega
    have := (Nat.pow_lt_pow_iff_right (by norm_num)).mp hpow
    omega
  · rw [Int.toNat_natCast, maxInt128]
    omega

/-- What is returned is the exact value of the text. -/
lemma parseDecimalInteger_sound {debug : String → String} {t : String} {n e : ℤ} {q : ℚ}
    (hn : parseDecimalInteger debug t = .ok n) (hq : NumberValue t.toList e q) : q = n := by
  obtain ⟨sign, int, fraction, exponent, hsign, hint, hfraction, hexponent, ht, he, rfl⟩ := hq
  rw [parseDecimalInteger_parts debug hsign hint hfraction hexponent ht rfl rfl he rfl] at hn
  rw [value_eq_shift rfl rfl rfl]
  split_ifs at hn with hempty hlarge hneg hlong hfits <;> cases hn
  · rw [hempty]
    simp [ofDecimal]
  · push_cast
    rw [← zpow_natCast, Int.toNat_of_nonneg (not_lt.mp hneg)]

/-- A text of an integer below 10^38 is read to it. -/
lemma parseDecimalInteger_of_value {t : String} {n e : ℤ}
    (hvalue : NumberValue t.toList e n) (hsmall : |e| ≤ 1000) (hbound : |n| < 10 ^ 38) :
    parseDecimalInteger debug t = .ok n := by
  obtain ⟨sign, int, fraction, exponent, hsign, hint, hfraction, hexponent, ht, he, hq⟩ := hvalue
  obtain ⟨digits, hdigits⟩ : ∃ digits, digits = (int ++ fraction.tail).dropWhile (· == '0') :=
    ⟨_, rfl⟩
  obtain ⟨significant, hsignificant⟩ : ∃ significant, significant = digits.rdropWhile (· == '0') :=
    ⟨_, rfl⟩
  obtain ⟨scale, hscale⟩ : ∃ scale : ℤ, scale
      = e - fraction.tail.length + (digits.length - significant.length : ℕ) := ⟨_, rfl⟩
  rw [value_eq_shift hdigits hsignificant hscale] at hq
  rw [parseDecimalInteger_parts debug hsign hint hfraction hexponent ht hdigits hsignificant he
    hscale]
  by_cases hempty : digits = []
  · rw [hsignificant, hempty, List.rdropWhile_nil] at hq
    have hzero : n = 0 := by
      have : (n : ℚ) = 0 := by rw [hq]; simp [ofDecimal]
      exact_mod_cast this
    rw [if_pos hempty, hzero]
  · have hall : ∀ c ∈ digits, isDecimal c = true := fun c hc =>
      isDecimal_of_parts hint hfraction c ((List.dropWhile_suffix _).subset (hdigits ▸ hc))
    obtain ⟨hlength, h10⟩ := significant_spec hall hempty
      (hdigits ▸ head?_dropWhile_zeros (int ++ fraction.tail))
    rw [← hsignificant] at hlength h10
    have hself : (signValue sign : ℚ) * signValue sign = 1 := by
      exact_mod_cast signValue_mul_self sign
    have hshift : (ofDecimal significant : ℚ) * 10 ^ scale = (signValue sign * n : ℤ) := by
      push_cast
      rw [hq, ← mul_assoc, hself, one_mul]
    have hlt : signValue sign * n < 10 ^ 38 := by
      have habs := abs_lt.mp hbound
      rw [signValue]
      split_ifs <;> omega
    obtain ⟨hnonneg, hlong, hfits, hprod⟩ := shift_in_range hlength h10 hshift hlt
    have he' := abs_le.mp hsmall
    rw [if_neg hempty, if_neg (by omega), if_neg (not_lt.mpr hnonneg), if_neg (not_lt.mpr hlong),
      if_neg (not_lt.mpr hfits), hprod, ← mul_assoc, signValue_mul_self, one_mul]

/-- **What is returned is the value of the text, exactly**: the text is a number and has no
other value.  Every text of an integer below 10^38 whose exponent is at most 1000 is read to
it, however it is written. -/
theorem decimal_integer_exact (debug : String → String) (t : String) :
    (∀ n : ℤ, parseDecimalInteger debug t = .ok n →
        (∃ e, NumberValue t.toList e n) ∧ ∀ e q, NumberValue t.toList e q → q = n)
      ∧ ∀ e n : ℤ, NumberValue t.toList e n → |e| ≤ 1000 → |n| < 10 ^ 38 →
          parseDecimalInteger debug t = .ok n := by
  refine ⟨fun n hn => ⟨?_, fun e q => parseDecimalInteger_sound hn⟩,
    fun e n => parseDecimalInteger_of_value debug⟩
  have hnumber : isJsonNumber t.toList = true := by
    by_contra hnot
    rw [parseDecimalInteger, Bool.eq_false_of_not_eq_true hnot] at hn
    cases hn
  obtain ⟨e, q, hq⟩ := ((isJsonNumber_iff _).mp hnumber).exists_value
  exact ⟨e, parseDecimalInteger_sound hn hq ▸ hq⟩

end MacpRuntime.Http
