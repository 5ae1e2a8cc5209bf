import MacpRuntime.Lib.JsonGrammar

/-!
Doubles and their JSON texts.

* `truncTo`, `isWhole`, `ceilTo`: the integer readings of a double, saturating at a bound;
* `FloatText`: a printer and a parser of doubles, which need not read back the very double that was
  printed.  What is not finite is written as `null`, which is not read as a double;
* `FloatText.reread`: a JSON value as it is read back from its text;
* `exactDecimal`, `shortestDecimal`: the printer of the full expansion with a parser that rounds to
  nearest, and the printer of the shortest decimal with one that rounds twice.
-/

open Float.Model (UnpackedFloat)

/-! ### Integer readings -/

namespace Double

/-- The integer part, saturating at a bound; what is negative or not a number reads as 0. -/
def truncTo (bound : ℕ) (x : Float) : ℕ :=
  match x.toModel.unpack with
  | .finite .positive m e _ =>
    min bound (if 0 ≤ e then m * 2 ^ e.toNat else m / 2 ^ (-e).toNat)
  | .infinity .positive => bound
  | _ => 0

/-- Whether the fractional part is zero. -/
def isWhole (x : Float) : Bool :=
  match x.toModel.unpack with
  | .zero _ => true
  | .finite _ m e _ => decide (0 ≤ e) || m % 2 ^ (-e).toNat == 0
  | _ => false

/-- The ceiling, saturating like the integer part. -/
def ceilTo (bound : ℕ) (x : Float) : ℕ :=
  match x.toModel.unpack with
  | .finite .positive _ _ _ => min bound (truncTo bound x + if isWhole x then 0 else 1)
  | .infinity .positive => bound
  | _ => 0

end Double

/-! ### Printers and parsers -/

/-- A printer and a parser of doubles. -/
structure FloatText where
  write : Float → String
  read : String → Option Float
  literal : ∀ x, x.isFinite = true → Json.FloatLiteral (write x)

namespace FloatText

variable (t : FloatText)

/-- A double as a JSON value. -/
def toJson (x : Float) : Json :=
  if x.isFinite then .number (.float (t.write x)) else .null

/-- The double a JSON number holds; integers are converted. -/
def fromJson : Json → Option Float
  | .number (.float text) => t.read text
  | .number (.posInt n) => some n.toFloat
  | .number (.negInt n) => some (-(UInt64.ofNat n.toInt.natAbs).toFloat)
  | _ => none

/-- A double that is read back from its text. -/
structure Exact (x : Float) : Prop where
  finite : x.isFinite = true
  read_write : t.read (t.write x) = some x

lemma literal_toJson (x : Float) : (t.toJson x).Literal := by
  rw [toJson]
  split_ifs with h
  · exact t.literal x h
  · trivial

variable {t}

lemma Exact.fromJson_toJson {x : Float} (h : t.Exact x) : t.fromJson (t.toJson x) = some x := by
  rw [toJson, if_pos h.finite]
  exact h.read_write

variable (t) in
mutual

/-- The value read from the text of a value: its floats are printed and parsed. -/
def reread : Json → Option Json
  | .number (.float text) => (t.read text).map t.toJson
  | .array items => (rereadItems items).map .array
  | .object members => (rereadMembers members).map .object
  | v => some v

/-- The items read from their texts. -/
def rereadItems : List Json → Option (List Json)
  | [] => some []
  | v :: vs => do
    let v ← reread v
    let vs ← rereadItems vs
    return v :: vs

/-- The members read from their texts, under their keys. -/
def rereadMembers : List (String × Json) → Option (List (String × Json))
  | [] => some []
  | (key, v) :: ms => do
    let v ← reread v
    let ms ← rereadMembers ms
    return (key, v) :: ms

end

mutual

/-- What is read back has literals for its numbers again. -/
lemma literal_reread : ∀ {v w : Json}, v.Literal → t.reread v = some w → w.Literal
  | .number (.float _), _, _, h => by
    obtain ⟨x, _, rfl⟩ := Option.map_eq_some_iff.mp h
    exact t.literal_toJson x
  | .array _, _, hv, h => by
    obtain ⟨_, hitems, rfl⟩ := Option.map_eq_some_iff.mp h
    exact literalItems_reread hv hitems
  | .object _, _, hv, h => by
    obtain ⟨_, hmembers, rfl⟩ := Option.map_eq_some_iff.mp h
    exact ⟨trivial, literalMembers_reread hv.2 hmembers⟩
  | .null, _, hv, h | .bool _, _, hv, h | .string _, _, hv, h
  | .number (.posInt _), _, hv, h | .number (.negInt _), _, hv, h => Option.some.inj h ▸ hv

lemma literalItems_reread : ∀ {vs ws : List Json}, Json.LiteralItems vs →
    t.rereadItems vs = some ws → Json.LiteralItems ws
  | [], _, hvs, h => Option.some.inj h ▸ hvs
  | _ :: _, _, hvs, h => by
    obtain ⟨w, hw, h⟩ := Option.bind_eq_some_iff.mp h
    obtain ⟨ws, hws, ⟨⟩⟩ := Option.bind_eq_some_iff.mp h
    exact ⟨literal_reread hvs.1 hw, literalItems_reread hvs.2 hws⟩

lemma literalMembers_reread : ∀ {ms ns : List (String × Json)}, Json.LiteralMembers ms →
    t.rereadMembers ms = some ns → Json.LiteralMembers ns
  | [], _, hms, h => Option.some.inj h ▸ hms
  | _ :: _, _, hms, h => by
    obtain ⟨w, hw, h⟩ := Option.bind_eq_some_iff.mp h
    obtain ⟨ns, hns, ⟨⟩⟩ := Option.bind_eq_some_iff.mp h
    exact ⟨literal_reread hms.1 hw, literalMembers_reread hms.2 hns⟩

end

end FloatText

/-! ### Decimal expansions -/

namespace ExactDecimal

open Json

/-- The last `k` decimal digits of `n`. -/
def padded : ℕ → ℕ → List Char
  | 0, _ => []
  | k + 1, n => padded k (n / 10) ++ [Char.ofNat (48 + n % 10)]

/-- A number with `k` digits after its point. -/
def withPoint (n k : ℕ) : List Char := decimal (n / 10 ^ k) ++ '.' :: padded k (n % 10 ^ k)

/-- The digits of a double, without its sign. -/
def digits (m : ℕ) (e : ℤ) : List Char :=
  if 0 ≤ e then withPoint (m * 2 ^ e.toNat * 10) 1
  else withPoint (m * 5 ^ (-e).toNat) (-e).toNat

/-- A text after its sign. -/
def signed (s : UnpackedFloat.Sign) (cs : List Char) : List Char :=
  match s with
  | .positive => cs
  | .negative => '-' :: cs

/-- The full decimal expansion of a double. -/
def write (x : Float) : String :=
  match x.toModel.unpack with
  | .finite s m e _ => String.ofList (signed s (digits m e))
  | .zero s => String.ofList (signed s (withPoint 0 1))
  | _ => ""

/-- The double nearest to an unsigned decimal text. -/
def readUnsigned (cs : List Char) : Option Float :=
  match cs.dropWhile isDecimal with
  | '.' :: frac =>
    if frac.all isDecimal then
      some (Float.ofScientific (ofDecimal (cs.takeWhile isDecimal ++ frac)) true frac.length)
    else none
  | _ => none

/-- The double nearest to a decimal text. -/
def read (text : String) : Option Float :=
  match text.toList with
  | '-' :: cs => (readUnsigned cs).map fun x => -x
  | cs => readUnsigned cs

lemma all_padded (k n : ℕ) : (padded k n).all isDecimal = true := by
  have hdigit : ∀ m < 10, isDecimal (Char.ofNat (48 + m)) = true := by decide
  induction k generalizing n with
  | zero => rfl
  | succ k ih =>
    rw [padded, List.all_append, ih, List.all_cons, hdigit _ (Nat.mod_lt _ (by decide))]
    rfl

/-- A text with a point is a number, and is not read as an integer. -/
lemma floatLiteral_signed (s : UnpackedFloat.Sign) (n : ℕ) {k : ℕ} (hk : k ≠ 0) :
    FloatLiteral (String.ofList (signed s (withPoint n k))) := by
  have hdigits : Digits (padded k (n % 10 ^ k)) := by
    refine ⟨?_, List.all_eq_true.mp (all_padded _ _)⟩
    obtain ⟨k, rfl⟩ := Nat.exists_eq_succ_of_ne_zero hk
    simp [padded]
  have hnumber (sign : List Char) (hsign : sign = [] ∨ sign = ['-']) :
      NumberText (sign ++ withPoint n k) :=
    ⟨sign, _, _, [], hsign, intText_decimal _, .inr ⟨_, hdigits, rfl⟩, .inl rfl,
      by rw [List.append_nil]; rfl⟩
  have hpoint : (withPoint n k).all isDecimal = false := by
    rw [withPoint, List.all_append, List.all_cons]
    simp [isDecimal]
  obtain ⟨c, cs, hcs⟩ := List.exists_cons_of_ne_nil (decimal_spec (n / 10 ^ k)).2.1
  have hc : c ≠ '-' := by
    rintro rfl
    have hall := (decimal_spec (n / 10 ^ k)).1
    rw [hcs, List.all_cons] at hall
    cases hall
  rw [FloatLiteral, String.toList_ofList]
  cases s with
  | negative =>
    refine ⟨hnumber ['-'] (.inr rfl), ?_⟩
    rw [signed, readNumber, hpoint]
    rfl
  | positive =>
    refine ⟨hnumber [] (.inl rfl), ?_⟩
    rw [signed, readNumber.eq_def]
    split
    · rename_i hnil
      rw [withPoint, hcs] at hnil
      cases hnil
    · rename_i hneg
      rw [withPoint, hcs, List.cons_append] at hneg
      exact absurd (List.cons.inj hneg).1 hc
    · rw [hpoint]
      rfl

/-- The expansion of a finite double is a float literal. -/
lemma floatLiteral_write {x : Float} (h : x.isFinite = true) : FloatLiteral (write x) := by
  have hfinite : x.toModel.unpack.isFinite = true := h
  rw [write]
  cases hx : x.toModel.unpack with
  | infinity s => rw [hx] at hfinite; cases hfinite
  | notANumber => rw [hx] at hfinite; cases hfinite
  | zero s => exact floatLiteral_signed s 0 one_ne_zero
  | finite s m e hm =>
    dsimp only
    rw [digits]
    split_ifs
    · exact floatLiteral_signed s _ one_ne_zero
    · exact floatLiteral_signed s _ (by omega)

end ExactDecimal

/-- The printer of full decimal expansions. -/
def exactDecimal : FloatText :=
  ⟨ExactDecimal.write, ExactDecimal.read, fun _ h => ExactDecimal.floatLiteral_write h⟩

example : exactDecimal.Exact 0.5 := ⟨rfl, rfl⟩

/-! ### Shortest decimals -/

namespace ShortestDecimal

open Json ExactDecimal

/-- The decimal with `k` digits after its point that is nearest to a finite double, without the
point. -/
def scaled (m : ℕ) (e : ℤ) (k : ℕ) : ℕ :=
  if 0 ≤ e then m * 2 ^ e.toNat * 10 ^ k
  else (2 * (m * 10 ^ k) + 2 ^ (-e).toNat) / (2 * 2 ^ (-e).toNat)

/-- The fewest digits after the point, at most 25, that tell a finite double from all others. -/
def places (m : ℕ) (e : ℤ) (x : Float) : Option ℕ :=
  (List.range' 1 25).find? fun k =>
    Float.ofScientific (scaled m e k) true k == Float.abs x

/-- The shortest decimal of a double. -/
def write (x : Float) : String :=
  match x.toModel.unpack with
  | .finite s m e _ =>
    match places m e x with
    | some k => String.ofList (signed s (withPoint (scaled m e k) k))
    | none => ExactDecimal.write x
  | _ => ExactDecimal.write x

/-- The longest beginning of a text of digits whose value has 64 bits, with its length. -/
def significand : List Char → ℕ × ℕ → ℕ × ℕ
  | [], acc => acc
  | c :: cs, acc =>
    let next := acc.1 * 10 + (c.toNat - 48)
    if next < 2 ^ 64 then significand cs (next, acc.2 + 1) else acc

/-- A power of ten. -/
def pow10 (k : ℕ) : Float := Float.ofScientific 1 false k

/-- A double divided by a power of ten, 308 digits at a time. -/
def scaleDown (f : Float) (k : ℕ) : Float :=
  (List.replicate ((k - 1) / 308) ()).foldl (fun f _ => f / pow10 308) f
    / pow10 (k - 308 * ((k - 1) / 308))

/-- The significand is rounded to a double, and so is its product with the power of ten; digits
beyond the significand are dropped. -/
def readUnsigned (cs : List Char) : Option Float :=
  match cs.dropWhile isDecimal with
  | '.' :: frac =>
    if frac.all isDecimal then
      let whole := cs.takeWhile isDecimal
      let (value, kept) := significand (whole ++ frac) (0, 0)
      let f := (UInt64.ofNat value).toFloat
      if kept ≤ whole.length then
        let product := f * pow10 (whole.length - kept)
        if product.isFinite then some product else none
      else some (scaleDown f (kept - whole.length))
    else none
  | _ => none

/-- The double that a text is read to. -/
def read (text : String) : Option Float :=
  match text.toList with
  | '-' :: cs => (readUnsigned cs).map fun x => -x
  | cs => readUnsigned cs

lemma floatLiteral_write {x : Float} (h : x.isFinite = true) : FloatLiteral (write x) := by
  unfold write
  split
  · split
    · rename_i k hk
      have hmem := List.mem_range'_1.mp (List.mem_of_find?_eq_some hk)
      exact floatLiteral_signed _ _ (by omega)
    · exact ExactDecimal.floatLiteral_write h
  · exact ExactDecimal.floatLiteral_write h

end ShortestDecimal

/-- The printer of shortest decimals and a parser that is fast and not exact: the significand and
the result are rounded one after the other. -/
def shortestDecimal : FloatText :=
  ⟨ShortestDecimal.write, ShortestDecimal.read, fun _ h => ShortestDecimal.floatLiteral_write h⟩

/-- The double nearest to 10/11 is written with sixteen digits and read as its neighbour. -/
example : shortestDecimal.write (.ofBits 0x3FED1745D1745D17) = "0.9090909090909091"
    ∧ shortestDecimal.read "0.9090909090909091" = some (.ofBits 0x3FED1745D1745D18) := by
  decide +kernel
