import MacpRuntime.Lib.Utf8

/-!
JSON values and their compact text.  An object is held as its members in order; the writer escapes
the control characters, the quote and the backslash and nothing else.  A number is an integer in
range or the text of a float.
-/

/-- A JSON number: an integer in one of two ranges, or a float, held as its shortest
decimal text. -/
inductive JsonNumber where
  | posInt (n : UInt64)
  | negInt (n : Int64)
  | float (text : String)
  deriving DecidableEq, Repr

/-- A JSON value. -/
inductive Json where
  | null
  | bool (b : Bool)
  | number (n : JsonNumber)
  | string (s : String)
  | array (items : List Json)
  | object (members : List (String × Json))

/-- The number holding an `Int64`. -/
def JsonNumber.ofInt64 (n : Int64) : JsonNumber :=
  if 0 ≤ n then .posInt n.toUInt64 else .negInt n

namespace Json

/-! ### Characters -/

/-- The quotation mark. -/
def quote : Char := Char.ofNat 34

/-- The reverse solidus. -/
def backslash : Char := Char.ofNat 92

/-- The left brace. -/
def openBrace : Char := Char.ofNat 123

/-- The right brace. -/
def closeBrace : Char := Char.ofNat 125

/-- A hexadecimal digit, lower case. -/
def hexDigit (n : ℕ) : Char := Char.ofNat (if n < 10 then 48 + n else 87 + n)

variable (c : Char)

/-- The letter of a two-character escape of a control character. -/
def shortEscape (n : ℕ) : Option Char :=
  if n = 8 then some 'b' else if n = 9 then some 't' else if n = 10 then some 'n'
  else if n = 12 then some 'f' else if n = 13 then some 'r' else none

/-- The character a letter after a backslash stands for. -/
def unescape : Option Char :=
  if c = quote then some quote else if c = backslash then some backslash
  else if c = 'b' then some (Char.ofNat 8) else if c = 't' then some (Char.ofNat 9)
  else if c = 'n' then some (Char.ofNat 10) else if c = 'f' then some (Char.ofNat 12)
  else if c = 'r' then some (Char.ofNat 13) else none

/-- One character of a string literal. -/
def escapeChar : List Char :=
  if c = quote then [backslash, quote]
  else if c = backslash then [backslash, backslash]
  else if c.toNat < 32 then
    match shortEscape c.toNat with
    | some l => [backslash, l]
    | none => [backslash, 'u', '0', '0', hexDigit (c.toNat / 16), hexDigit (c.toNat % 16)]
  else [c]

/-- A string literal. -/
def writeString (s : String) : List Char := quote :: (s.toList.flatMap escapeChar ++ [quote])

/-! ### Numbers -/

/-- The decimal digits of `n`, most significant first; the first argument bounds their
number. -/
def decimalAux : ℕ → ℕ → List Char → List Char
  | 0, _, acc => acc
  | k + 1, n, acc =>
    let acc := Char.ofNat (48 + n % 10) :: acc
    if n < 10 then acc else decimalAux k (n / 10) acc

/-- The decimal digits of a number. -/
def decimal (n : ℕ) : List Char := decimalAux (n + 1) n []

/-- The number a list of decimal digits denotes. -/
def ofDecimal (cs : List Char) : ℕ := cs.foldl (fun n c => n * 10 + (c.toNat - 48)) 0

/-- A decimal digit. -/
def isDecimal : Bool := 48 ≤ c.toNat && c.toNat ≤ 57

/-- The characters a number is made of. -/
def isNumberChar : Bool :=
  isDecimal c || c == '-' || c == '+' || c == '.' || c == 'e' || c == 'E'

/-- The text of a number. -/
def writeNumber : JsonNumber → List Char
  | .posInt n => decimal n.toNat
  | .negInt n => '-' :: decimal n.toInt.natAbs
  | .float text => text.toList

/-- The number a number text denotes: an integer when it is one and fits. -/
def readNumber (cs : List Char) : Option JsonNumber :=
  match cs with
  | [] => none
  | '-' :: ds =>
    if ds.all isDecimal && !ds.isEmpty && ofDecimal ds ≤ 2 ^ 63 && ofDecimal ds ≠ 0 then
      some (.negInt (Int64.ofInt (-ofDecimal ds)))
    else some (.float (String.ofList cs))
  | ds =>
    if ds.all isDecimal && ofDecimal ds < 2 ^ 64 then some (.posInt (UInt64.ofNat (ofDecimal ds)))
    else some (.float (String.ofList cs))

/-- At least one digit. -/
def Digits (ds : List Char) : Prop := ds ≠ [] ∧ ∀ c ∈ ds, isDecimal c = true

/-- An integer part has no leading zero. -/
def IntText (ds : List Char) : Prop := ds = ['0'] ∨ Digits ds ∧ ds.head? ≠ some '0'

/-- A fraction, or nothing. -/
def FractionText (cs : List Char) : Prop := cs = [] ∨ ∃ ds, Digits ds ∧ cs = '.' :: ds

/-- An exponent, or nothing. -/
def ExponentText (cs : List Char) : Prop :=
  cs = [] ∨ ∃ e sign ds, (e = 'e' ∨ e = 'E') ∧ (sign = [] ∨ sign = ['+'] ∨ sign = ['-'])
    ∧ Digits ds ∧ cs = e :: (sign ++ ds)

/-- A number literal. -/
def NumberText (cs : List Char) : Prop :=
  ∃ sign int fraction exponent, (sign = [] ∨ sign = ['-']) ∧ IntText int ∧ FractionText fraction
    ∧ ExponentText exponent ∧ cs = sign ++ (int ++ (fraction ++ exponent))

/-- A number literal that is read as a float. -/
def FloatLiteral (text : String) : Prop :=
  NumberText text.toList ∧ readNumber text.toList = some (.float text)

end Json

/-- A number whose text is read back: an integer within its range, or a float literal. -/
def JsonNumber.Literal : JsonNumber → Prop
  | .posInt _ => True
  | .negInt n => n < 0
  | .float text => Json.FloatLiteral text

lemma JsonNumber.ofInt64_literal (n : Int64) : (JsonNumber.ofInt64 n).Literal := by
  unfold ofInt64
  split
  · trivial
  · rename_i h
    rw [Int64.le_iff_toInt_le] at h
    exact Int64.lt_iff_toInt_lt.mpr (by omega)

namespace Json

/-! ### Values -/

mutual

/-- The compact text of a value. -/
def write : Json → List Char
  | .null => "null".toList
  | .bool b => (if b then "true" else "false").toList
  | .number n => writeNumber n
  | .string s => writeString s
  | .array items => '[' :: (writeItems items ++ [']'])
  | .object members => openBrace :: (writeMembers members ++ [closeBrace])

/-- The texts of the items, separated by commas. -/
def writeItems : List Json → List Char
  | [] => []
  | v :: vs => write v ++ (if vs.isEmpty then [] else ',' :: writeItems vs)

/-- The texts of the members, separated by commas. -/
def writeMembers : List (String × Json) → List Char
  | [] => []
  | (k, v) :: ms =>
    writeString k ++ ':' :: (write v ++ (if ms.isEmpty then [] else ',' :: writeMembers ms))

end

/-! ### Numbers are read back -/

/-- The digits of a number: they are decimal, there is at least one, and they denote it. -/
lemma decimalAux_spec (k : ℕ) : ∀ n acc, n < 10 ^ (k + 1) → ∃ ds : List Char,
    decimalAux (k + 1) n acc = ds ++ acc ∧ ds.all isDecimal = true ∧ ds ≠ []
      ∧ ofDecimal ds = n := by
  induction k with
  | zero =>
    intro n acc hn
    rw [zero_add, pow_one] at hn
    refine ⟨[Char.ofNat (48 + n % 10)], ?_, ?_, by simp, ?_⟩
    · simp [decimalAux, hn]
    · interval_cases n <;> rfl
    · interval_cases n <;> rfl
  | succ k ih =>
    intro n acc hn
    rw [decimalAux]
    split_ifs with hlt
    · refine ⟨[Char.ofNat (48 + n % 10)], rfl, ?_, by simp, ?_⟩
      · interval_cases n <;> rfl
      · interval_cases n <;> rfl
    · obtain ⟨ds, hds, hall, _, hval⟩ := ih (n / 10) (Char.ofNat (48 + n % 10) :: acc) (by
        rw [Nat.div_lt_iff_lt_mul (by omega), ← pow_succ]
        exact hn)
      have hdig : ∀ m < 10, isDecimal (Char.ofNat (48 + m)) = true
          ∧ (Char.ofNat (48 + m)).toNat - 48 = m := by decide
      obtain ⟨hd, hv⟩ := hdig (n % 10) (Nat.mod_lt _ (by omega))
      refine ⟨ds ++ [Char.ofNat (48 + n % 10)], by rw [hds]; simp, ?_, by simp, ?_⟩
      · rw [List.all_append, hall, List.all_cons, hd]
        rfl
      · rw [ofDecimal, List.foldl_append, ← ofDecimal, hval, List.foldl_cons, List.foldl_nil, hv]
        omega

lemma decimal_spec (n : ℕ) :
    (decimal n).all isDecimal = true ∧ decimal n ≠ [] ∧ ofDecimal (decimal n) = n := by
  obtain ⟨ds, hds, h⟩ := decimalAux_spec n n []
    (lt_trans (Nat.lt_pow_self (by omega)) (Nat.pow_lt_pow_right (by omega) (by omega)))
  rw [decimal, hds, List.append_nil]
  exact h

variable {n : JsonNumber}

/-- A literal number is read back. -/
lemma readNumber_writeNumber (h : n.Literal) : readNumber (writeNumber n) = some n := by
  cases n with
  | posInt n =>
    obtain ⟨hall, hne, hval⟩ := decimal_spec n.toNat
    obtain ⟨d, ds, hds⟩ := List.exists_cons_of_ne_nil hne
    have hd : d ≠ '-' := by
      rintro rfl
      rw [hds, List.all_cons] at hall
      cases hall
    have hlt := n.toNat_lt
    rw [writeNumber, readNumber.eq_def]
    split
    · contradiction
    · rename_i heq
      rw [hds] at heq
      cases heq
      contradiction
    · rw [hall, hval, Bool.true_and, if_pos (by simpa using hlt), UInt64.ofNat_toNat]
  | negInt n =>
    obtain ⟨hall, hne, hval⟩ := decimal_spec n.toInt.natAbs
    have hneg : n.toInt < 0 := by simpa using Int64.lt_iff_toInt_lt.mp h
    have hlo := n.le_toInt
    have hback : Int64.ofInt (-(n.toInt.natAbs : ℤ)) = n := by
      rw [show -(n.toInt.natAbs : ℤ) = n.toInt by omega, Int64.ofInt_toInt]
    rw [writeNumber, readNumber, hall, hval, if_pos, hback]
    simp only [Bool.true_and, Bool.and_eq_true, decide_eq_true_eq]
    refine ⟨⟨by simpa using hne, by omega⟩, by omega⟩
  | float text => exact h.2

/-! ### What holds at every depth -/

section Everywhere

variable (num num' : JsonNumber → Prop) (obj obj' : List (String × Json) → Prop)

mutual

/-- The numbers in a value meet `num`, and the members of its objects `obj`. -/
def Everywhere : Json → Prop
  | .number n => num n
  | .array items => EverywhereItems items
  | .object members => obj members ∧ EverywhereMembers members
  | _ => True

/-- So it is in every item. -/
def EverywhereItems : List Json → Prop
  | [] => True
  | v :: vs => Everywhere v ∧ EverywhereItems vs

/-- So it is in the value of every member. -/
def EverywhereMembers : List (String × Json) → Prop
  | [] => True
  | (_, v) :: ms => Everywhere v ∧ EverywhereMembers ms

end

variable {num num' obj obj'}

lemma everywhereItems_iff {vs : List Json} :
    EverywhereItems num obj vs ↔ ∀ v ∈ vs, Everywhere num obj v := by
  induction vs with
  | nil => exact ⟨fun _ _ h => absurd h List.not_mem_nil, fun _ => trivial⟩
  | cons v vs ih => rw [List.forall_mem_cons, ← ih]; rfl

lemma everywhereMembers_iff {ms : List (String × Json)} :
    EverywhereMembers num obj ms ↔ ∀ m ∈ ms, Everywhere num obj m.2 := by
  induction ms with
  | nil => exact ⟨fun _ _ h => absurd h List.not_mem_nil, fun _ => trivial⟩
  | cons m ms ih => rw [List.forall_mem_cons, ← ih]; rfl

mutual

/-- What holds at every depth may be weakened. -/
lemma Everywhere.mono (hnum : ∀ n, num n → num' n) (hobj : ∀ ms, obj ms → obj' ms) :
    ∀ {v : Json}, Everywhere num obj v → Everywhere num' obj' v
  | .null, _ | .bool _, _ | .string _, _ => trivial
  | .number n, h => hnum n h
  | .array _, h => EverywhereItems.mono hnum hobj h
  | .object ms, h => ⟨hobj ms h.1, EverywhereMembers.mono hnum hobj h.2⟩

lemma EverywhereItems.mono (hnum : ∀ n, num n → num' n) (hobj : ∀ ms, obj ms → obj' ms) :
    ∀ {vs : List Json}, EverywhereItems num obj vs → EverywhereItems num' obj' vs
  | [], _ => trivial
  | _ :: _, h => ⟨h.1.mono hnum hobj, EverywhereItems.mono hnum hobj h.2⟩

lemma EverywhereMembers.mono (hnum : ∀ n, num n → num' n) (hobj : ∀ ms, obj ms → obj' ms) :
    ∀ {ms : List (String × Json)}, EverywhereMembers num obj ms → EverywhereMembers num' obj' ms
  | [], _ => trivial
  | _ :: _, h => ⟨h.1.mono hnum hobj, EverywhereMembers.mono hnum hobj h.2⟩

end

end Everywhere

/-- Every number in the value is read back from its text. -/
def Literal : Json → Prop := Everywhere JsonNumber.Literal fun _ => True

/-- So it is in every item. -/
def LiteralItems : List Json → Prop := EverywhereItems JsonNumber.Literal fun _ => True

/-- So it is in the value of every member. -/
def LiteralMembers : List (String × Json) → Prop :=
  EverywhereMembers JsonNumber.Literal fun _ => True

end Json

/-- An integer within its range. -/
def JsonNumber.Integral : JsonNumber → Prop
  | .posInt _ => True
  | .negInt n => n < 0
  | .float _ => False

lemma JsonNumber.Integral.literal {n : JsonNumber} (h : n.Integral) : n.Literal := by
  cases n with
  | posInt n => trivial
  | negInt n => exact h
  | float text => exact h.elim

namespace Json

/-- Every number in the value is an integer. -/
def Integral : Json → Prop := Everywhere JsonNumber.Integral fun _ => True

/-- Integers are read back from their texts. -/
lemma Integral.literal {v : Json} (h : v.Integral) : v.Literal :=
  Everywhere.mono (fun _ => JsonNumber.Integral.literal) (fun _ => id) h

/-! ### Members and equality -/

/-- A field with a default: an absent one takes it, a present one must parse. -/
def fieldOr {α : Type} (read : Json → Option α) (default : α) (key : String)
    (members : List (String × Json)) : Option α :=
  match members.lookup key with
  | none => some default
  | some v => read v

/-- The member of an object under a key. -/
def get? (key : String) : Json → Option Json
  | .object members => members.lookup key
  | _ => none

mutual

/-- Equality of values, as they are held. -/
def beq : Json → Json → Bool
  | .null, .null => true
  | .bool a, .bool b => a == b
  | .number a, .number b => decide (a = b)
  | .string a, .string b => a == b
  | .array as, .array bs => beqItems as bs
  | .object as, .object bs => beqMembers as bs
  | _, _ => false

/-- Equality of items. -/
def beqItems : List Json → List Json → Bool
  | [], [] => true
  | a :: as, b :: bs => beq a b && beqItems as bs
  | _, _ => false

/-- Equality of members. -/
def beqMembers : List (String × Json) → List (String × Json) → Bool
  | [], [] => true
  | (k, a) :: as, (l, b) :: bs => k == l && beq a b && beqMembers as bs
  | _, _ => false

end

mutual

lemma beq_iff : ∀ a b : Json, beq a b = true ↔ a = b
  | .null, b => by cases b <;> simp [beq]
  | .bool _, b => by cases b <;> simp [beq]
  | .number _, b => by cases b <;> simp [beq]
  | .string _, b => by cases b <;> simp [beq]
  | .array as, b => by cases b <;> simp [beq, beqItems_iff as]
  | .object as, b => by cases b <;> simp [beq, beqMembers_iff as]

lemma beqItems_iff : ∀ as bs : List Json, beqItems as bs = true ↔ as = bs
  | [], bs => by cases bs <;> simp [beqItems]
  | a :: as, bs => by cases bs <;> simp [beqItems, beq_iff a, beqItems_iff as]

lemma beqMembers_iff : ∀ as bs : List (String × Json), beqMembers as bs = true ↔ as = bs
  | [], bs => by cases bs <;> simp [beqMembers]
  | (k, a) :: as, bs => by
    cases bs with
    | nil => simp [beqMembers]
    | cons b bs =>
      obtain ⟨l, b⟩ := b
      simp [beqMembers, beq_iff a, beqMembers_iff as]

end

instance : DecidableEq Json := fun a b => decidable_of_iff _ (beq_iff a b)

end Json
