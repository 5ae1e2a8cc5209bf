import MacpRuntime.Lib.Utf8

/-!
The protobuf wire format: varints, fields, and messages as lists of fields in wire order.  A group
is skipped up to its end, a key has 32 bits and a positive field number, fields of other numbers are
skipped, and a known field of another wire type refuses the message.  A bounded reader allows a
varint ten bytes and 64 bits.  **What is written is read back** (`readFields_writeFields`,
`decodeMessage_writeFields`).
-/

namespace Protobuf

/-! ### Varints -/

/-- The base-128 digits of `n`, every one but the last with its top bit set.  The first
argument bounds the number of further digits. -/
def varintDigits : ℕ → ℕ → List UInt8
  | 0, n => [UInt8.ofNat n]
  | k + 1, n =>
    if n < 128 then [UInt8.ofNat n]
    else UInt8.ofNat (128 + n % 128) :: varintDigits k (n / 128)

/-- A varint. -/
def writeVarint (n : ℕ) : List UInt8 := varintDigits n n

/-- Read base-128 digits off the front, at most as many as a bound allows. -/
def readDigits : Option ℕ → List UInt8 → Option (ℕ × List UInt8)
  | _, [] => none
  | bound, b :: bs =>
    if bound = some 0 then none
    else if b.toNat < 128 then some (b.toNat, bs)
    else (readDigits (bound.map Nat.pred) bs).map fun r => (b.toNat - 128 + 128 * r.1, r.2)

/-- Read a varint off the front; a bounded one has ten bytes and 64 bits at most. -/
def readVarint (bounded : Bool) (bs : List UInt8) : Option (ℕ × List UInt8) :=
  if bounded then (readDigits (some 10) bs).filter fun r => decide (r.1 < 2 ^ 64)
  else readDigits none bs

lemma readVarint_eq_some {bs rest : List UInt8} {n : ℕ} : readVarint true bs = some (n, rest)
    ↔ readDigits (some 10) bs = some (n, rest) ∧ n < 2 ^ 64 := by
  rw [readVarint, if_pos rfl, Option.filter_eq_some_iff, decide_eq_true_eq]

/-- The written digits are read back, if the bound allows for them. -/
lemma readDigits_varintDigits (rest : List UInt8) (k n : ℕ) {bound : Option ℕ}
    (hk : n < 128 ^ (k + 1)) (hbound : ∀ m ∈ bound, 0 < m ∧ n < 128 ^ m) :
    readDigits bound (varintDigits k n ++ rest) = some (n, rest) := by
  have hsingle {n : ℕ} {bound : Option ℕ} (hlt : n < 128) (hne : bound ≠ some 0) :
      readDigits bound (UInt8.ofNat n :: rest) = some (n, rest) := by
    rw [readDigits, if_neg hne, Utf8.toNat_ofNat_of_lt (by omega), if_pos hlt]
  induction k generalizing n bound with
  | zero => exact hsingle (by omega) fun h => absurd (hbound 0 h).1 (lt_irrefl 0)
  | succ k ih =>
    have hne : bound ≠ some 0 := fun h => absurd (hbound 0 h).1 (lt_irrefl 0)
    rw [varintDigits]
    split_ifs with hlt
    · exact hsingle hlt hne
    · have hdiv (m : ℕ) (hm : n < 128 ^ (m + 1)) : n / 128 < 128 ^ m := by
        rw [Nat.div_lt_iff_lt_mul (by omega), ← pow_succ]
        exact hm
      have hpred : ∀ m ∈ bound.map Nat.pred, 0 < m ∧ n / 128 < 128 ^ m := by
        intro m hm
        obtain ⟨_ | _ | m, hm', rfl⟩ := Option.mem_map.mp hm
        · exact absurd (hbound _ hm').1 (by omega)
        · exact absurd (hbound _ hm').2 (by omega)
        · exact ⟨Nat.succ_pos m, hdiv _ (hbound _ hm').2⟩
      have hn : 128 + n % 128 - 128 + 128 * (n / 128) = n := by omega
      rw [List.cons_append, readDigits, if_neg hne, Utf8.toNat_ofNat_of_lt (by omega),
        if_neg (by omega), ih _ (hdiv _ hk) hpred, Option.map_some, hn]

/-- A varint is read back, whatever follows it. -/
lemma readVarint_writeVarint {bounded : Bool} {n : ℕ} (h : bounded = true → n < 2 ^ 64)
    (rest : List UInt8) : readVarint bounded (writeVarint n ++ rest) = some (n, rest) := by
  have hself : n < 128 ^ (n + 1) :=
    lt_trans (Nat.lt_pow_self (by omega)) (Nat.pow_lt_pow_right (by omega) (by omega))
  cases bounded with
  | false => exact readDigits_varintDigits rest n n hself nofun
  | true =>
    refine readVarint_eq_some.mpr ⟨readDigits_varintDigits rest n n hself ?_, h rfl⟩
    rintro _ ⟨⟩
    exact ⟨by omega, lt_trans (h rfl) (by norm_num)⟩

/-! ### Fields -/

/-- The value of a field, by wire type. -/
inductive WireValue where
  | varint (n : ℕ)
  | i64 (bytes : List UInt8)
  | len (bytes : List UInt8)
  | i32 (bytes : List UInt8)
  deriving DecidableEq, Repr

/-- A field: its number and its value. -/
abbrev Field := ℕ × WireValue

/-- A text value, when the bytes are UTF-8. -/
def WireValue.asString : WireValue → Option String
  | .len bytes => Utf8.decode bytes
  | _ => none

/-- A byte string. -/
def WireValue.asBytes : WireValue → Option (List UInt8)
  | .len bytes => some bytes
  | _ => none

/-- A number. -/
def WireValue.asVarint : WireValue → Option ℕ
  | .varint n => some n
  | _ => none

/-- A double, least significant byte first. -/
def WireValue.asDouble : WireValue → Option Float
  | .i64 bytes =>
    some (.ofBits (.ofNat (bytes.foldr (fun b n => b.toNat + 256 * n) 0)))
  | _ => none

/-- Take exactly `n` bytes off the front. -/
def takeExact (n : ℕ) (bs : List UInt8) : Option (List UInt8 × List UInt8) :=
  if n ≤ bs.length then some (bs.take n, bs.drop n) else none

/-- A field on the wire: its key, then its value. -/
def writeField : Field → List UInt8
  | (num, .varint n) => writeVarint (num * 8) ++ writeVarint n
  | (num, .i64 bytes) => writeVarint (num * 8 + 1) ++ bytes
  | (num, .len bytes) => writeVarint (num * 8 + 2) ++ (writeVarint bytes.length ++ bytes)
  | (num, .i32 bytes) => writeVarint (num * 8 + 5) ++ bytes

/-- A message: its fields in order. -/
def writeFields (fs : List Field) : List UInt8 := fs.flatMap writeField

/-- The value of a field that is read: a scalar one, or a group, which is skipped. -/
inductive Value where
  | scalar (v : WireValue)
  | group
  deriving DecidableEq, Repr

section Reader

variable (bounded : Bool)

/-- A key: the field number and the wire type. -/
def readKey (bs : List UInt8) : Option ((ℕ × ℕ) × List UInt8) :=
  ((readVarint bounded bs).filter fun r => decide (r.1 < 2 ^ 32 ∧ 1 ≤ r.1 / 8)).map fun r =>
    ((r.1 / 8, r.1 % 8), r.2)

/-- A value of a wire type other than the ends of a group. -/
def readScalar (wireType : ℕ) (bs : List UInt8) : Option (WireValue × List UInt8) :=
  match wireType with
  | 0 => (readVarint bounded bs).map fun r => (.varint r.1, r.2)
  | 1 => (takeExact 8 bs).map fun r => (.i64 r.1, r.2)
  | 2 => (readVarint bounded bs).bind fun r => (takeExact r.1 r.2).map fun s => (.len s.1, s.2)
  | 5 => (takeExact 4 bs).map fun r => (.i32 r.1, r.2)
  | _ => none

/-- Skip the fields of a group up to its end, which carries the same number; the first argument
bounds their number. -/
def skipGroup : ℕ → ℕ → List UInt8 → Option (List UInt8)
  | 0, _, _ => none
  | k + 1, num, bs =>
    (readKey bounded bs).bind fun r =>
      if r.1.2 = 4 then (if r.1.1 = num then some r.2 else none)
      else if r.1.2 = 3 then (skipGroup k r.1.1 r.2).bind (skipGroup k num)
      else (readScalar bounded r.1.2 r.2).bind fun s => skipGroup k num s.2

/-- Read one field off the front. -/
def readField (bs : List UInt8) : Option ((ℕ × Value) × List UInt8) :=
  (readKey bounded bs).bind fun r =>
    if r.1.2 = 3 then
      (skipGroup bounded r.2.length r.1.1 r.2).map fun rest => ((r.1.1, .group), rest)
    else (readScalar bounded r.1.2 r.2).map fun s => ((r.1.1, .scalar s.1), s.2)

/-- Read fields until the bytes run out; the first argument bounds their number. -/
def readFieldsAux : ℕ → List UInt8 → Option (List (ℕ × Value))
  | _, [] => some []
  | 0, _ :: _ => none
  | k + 1, b :: bs =>
    (readField bounded (b :: bs)).bind fun r => (readFieldsAux k r.2).map fun fs => r.1 :: fs

/-- The fields of a message. -/
def readFields (bs : List UInt8) : Option (List (ℕ × Value)) := readFieldsAux bounded bs.length bs

end Reader

/-! ### Messages -/

/-- Merge a field by its number: a group under a known number is refused, and one under another
number is skipped. -/
def mergeValue {α : Type} (known : ℕ → Bool) (merge : α → Field → Option α) (a : α) :
    ℕ × Value → Option α
  | (num, .scalar v) => merge a (num, v)
  | (num, .group) => if known num then none else some a

/-- A message: its fields merged into a value, one after the other. -/
def decodeMessage (bounded : Bool) {α : Type} (known : ℕ → Bool) (merge : α → Field → Option α)
    (default : α) (bytes : List UInt8) : Option α :=
  (readFields bounded bytes).bind fun fs => fs.foldlM (mergeValue known merge) default

/-! ### What is written is read back -/

/-- A field that a writer can write: its number and its widths fit, and its sizes where they are
bounded. -/
def Writable (bounded : Bool) (f : Field) : Prop :=
  1 ≤ f.1 ∧ f.1 < 2 ^ 29
    ∧ match f.2 with
      | .varint n => bounded = true → n < 2 ^ 64
      | .i64 bytes => bytes.length = 8
      | .len bytes => bounded = true → bytes.length < 2 ^ 64
      | .i32 bytes => bytes.length = 4

variable {bounded : Bool}

lemma readKey_writeVarint {num wireType : ℕ} (hpos : 1 ≤ num) (hnum : num < 2 ^ 29)
    (htype : wireType < 8) (rest : List UInt8) :
    readKey bounded (writeVarint (num * 8 + wireType) ++ rest) = some ((num, wireType), rest) := by
  rw [readKey, readVarint_writeVarint (by omega), Option.filter_some,
    if_pos (decide_eq_true ⟨by omega, by omega⟩), Option.map_some]
  have hdiv : (num * 8 + wireType) / 8 = num := by omega
  have hmod : (num * 8 + wireType) % 8 = wireType := by omega
  rw [hdiv, hmod]

lemma takeExact_append (xs rest : List UInt8) :
    takeExact xs.length (xs ++ rest) = some (xs, rest) := by
  rw [takeExact, if_pos (by simp), List.take_left, List.drop_left]

/-- A field is read back, whatever follows it. -/
lemma readField_writeField {f : Field} (h : Writable bounded f) (rest : List UInt8) :
    readField bounded (writeField f ++ rest) = some ((f.1, .scalar f.2), rest) := by
  obtain ⟨num, v⟩ := f
  obtain ⟨hpos, hnum, hsize⟩ := h
  have hkey (wireType : ℕ) (htype : wireType < 8) (body : List UInt8) :=
    @readKey_writeVarint bounded _ _ hpos hnum htype (body ++ rest)
  cases v with
  | varint n =>
    rw [writeField, List.append_assoc, readField, ← Nat.add_zero (num * 8), hkey 0 (by omega)]
    simp [readScalar, readVarint_writeVarint hsize]
  | i64 bytes =>
    have htake := takeExact_append bytes rest
    rw [show bytes.length = 8 from hsize] at htake
    rw [writeField, List.append_assoc, readField, hkey 1 (by omega)]
    simp [readScalar, htake]
  | len bytes =>
    rw [writeField, List.append_assoc, readField, hkey 2 (by omega)]
    simp [readScalar, readVarint_writeVarint hsize, takeExact_append]
  | i32 bytes =>
    have htake := takeExact_append bytes rest
    rw [show bytes.length = 4 from hsize] at htake
    rw [writeField, List.append_assoc, readField, hkey 5 (by omega)]
    simp [readScalar, htake]

lemma varintDigits_length_pos (k n : ℕ) : 0 < (varintDigits k n).length := by
  cases k <;> rw [varintDigits] <;> [simp; (split <;> simp)]

lemma writeField_length_pos (f : Field) : 0 < (writeField f).length := by
  obtain ⟨num, v⟩ := f
  cases v <;> simp only [writeField, List.length_append] <;>
    exact Nat.add_pos_left (varintDigits_length_pos _ _) _

/-- **Written fields are read back.** -/
theorem readFields_writeFields {fs : List Field} (hfs : ∀ f ∈ fs, Writable bounded f) :
    readFields bounded (writeFields fs) = some (fs.map fun f => (f.1, .scalar f.2)) := by
  -- any fuel that covers the bytes will do: a field has at least one of them
  have h (k : ℕ) (hk : (writeFields fs).length ≤ k) : readFieldsAux bounded k (writeFields fs)
      = some (fs.map fun f => (f.1, .scalar f.2)) := by
    induction fs generalizing k with
    | nil => cases k <;> rfl
    | cons f fs ih =>
      have hpos := writeField_length_pos f
      have hsplit : writeFields (f :: fs) = writeField f ++ writeFields fs := List.flatMap_cons
      rw [hsplit] at hk ⊢
      rw [List.length_append] at hk
      obtain ⟨b, bs, hb⟩ : ∃ b bs, writeField f ++ writeFields fs = b :: bs := by
        refine List.exists_cons_of_ne_nil fun hempty => ?_
        rw [(List.append_eq_nil_iff.mp hempty).1] at hpos
        exact absurd hpos (lt_irrefl 0)
      cases k with
      | zero => omega
      | succ k =>
        rw [hb, readFieldsAux, ← hb, readField_writeField (hfs f List.mem_cons_self),
          Option.bind_some, ih (fun f' hf' => hfs f' (List.mem_cons_of_mem f hf')) k (by omega)]
        rfl
  exact h _ le_rfl

/-- **A message of written fields is their merge.** -/
theorem decodeMessage_writeFields {α : Type} {known : ℕ → Bool} {merge : α → Field → Option α}
    {default : α} {fs : List Field} (hfs : ∀ f ∈ fs, Writable bounded f) :
    decodeMessage bounded known merge default (writeFields fs) = fs.foldlM merge default := by
  rw [decodeMessage, readFields_writeFields hfs, Option.bind_some, List.foldlM_map]
  rfl

end Protobuf
