import MacpRuntime.Lib.JsonGrammar

/-!
Typed readings of JSON values that read back what they write.

* `JsonForm`: a writer and a reader of a type.  What it reads back of a value is `reread`, and so it
  is through bytes (`JsonForm.decode_encode`);
* `JsonFields`: the fields of a record, each written and read under its key;
* `JsonCodec`: a form that reads back what it writes, for the usual types and for records.  A map is
  an object with its keys in order, a byte is a number.
-/

/-- A writer and a reader of `α`. -/
structure JsonForm (α : Type) where
  toJson : α → Json
  fromJson : Json → Option α
  literal : ∀ a, (toJson a).Literal

/-- A writer and a reader of `α` that reads back what was written. -/
structure JsonCodec (α : Type) extends JsonForm α where
  fromJson_toJson : ∀ a, fromJson (toJson a) = some a

/-! ### Forms -/

namespace JsonForm

variable {α : Type} (f : JsonForm α)

/-- What is read of the written value. -/
def reread (a : α) : Option α := f.fromJson (f.toJson a)

/-- A list as an array. -/
def list : JsonForm (List α) where
  toJson as := .array (as.map f.toJson)
  fromJson
    | .array items => items.mapM f.fromJson
    | _ => none
  literal _ := Json.everywhereItems_iff.mpr (List.forall_mem_map.mpr fun a _ => f.literal a)

/-- A list is reread element by element. -/
lemma reread_list (as : List α) : f.list.reread as = as.mapM f.reread := by
  change (as.map f.toJson).mapM f.fromJson = _
  rw [List.mapM_map]
  rfl

/-- The bytes of a value. -/
def encode (a : α) : List UInt8 := Json.toVec (f.toJson a)

/-- The value of bytes. -/
def decode (bytes : List UInt8) : Option α := (Json.fromSlice bytes).bind f.fromJson

/-- **What is decoded of the encoded value.** -/
theorem decode_encode (a : α) : f.decode (f.encode a) = f.reread a := by
  rw [decode, encode, Json.fromSlice_toVec (f.literal a), Option.bind_some, reread]

/-- No value is written as the empty text. -/
theorem encode_ne_nil (a : α) : f.encode a ≠ [] := by
  intro h
  have hread := Json.fromSlice_toVec (f.literal a)
  rw [show Json.toVec (f.toJson a) = [] from h] at hread
  cases hread

end JsonForm

/-! ### Fields of records -/

/-- The fields of a record `σ`, which a `κ` takes one by one: their keys, what is written of a
record, what is read of members, and what is read of those that were written. -/
structure JsonFields (σ κ : Type) where
  keys : List String
  write : σ → List (String × Json)
  read : κ → List (String × Json) → Option σ
  reread : κ → σ → Option σ
  Literal : σ → Prop
  keys_write : ∀ s, (write s).map Prod.fst = keys
  read_write : ∀ mk s ms, (∀ e ∈ write s, ms.lookup e.1 = some e.2) → read mk ms = reread mk s
  literal : ∀ s, Literal s → Json.LiteralMembers (write s)

namespace JsonFields

variable {σ κ α : Type}

/-- No more fields. -/
def nil : JsonFields σ σ where
  keys := []
  write _ := []
  read mk _ := some mk
  reread mk _ := some mk
  Literal _ := True
  keys_write _ := rfl
  read_write _ _ _ _ := rfl
  literal _ h := h

/-- A field with a writer and a reader of its own, and the rest; `missing` is read where its key is
not there. -/
def value (key : String) (toJson : α → Json) (fromJson : Json → Option α) (missing : Option α)
    (get : σ → α) (rest : JsonFields σ κ) : JsonFields σ (α → κ) where
  keys := key :: rest.keys
  write s := (key, toJson (get s)) :: rest.write s
  read mk ms := ((ms.lookup key).elim missing fromJson).bind fun a => rest.read (mk a) ms
  reread mk s := (fromJson (toJson (get s))).bind fun a => rest.reread (mk a) s
  Literal s := (toJson (get s)).Literal ∧ rest.Literal s
  keys_write s := by rw [List.map_cons, rest.keys_write]
  read_write mk s ms h := by
    rw [h _ List.mem_cons_self, Option.elim_some]
    congr 1
    funext a
    exact rest.read_write (mk a) s ms fun e he => h e (List.mem_cons_of_mem _ he)
  literal s h := ⟨h.1, rest.literal s h.2⟩

/-- A field of a given form. -/
def form (key : String) (f : JsonForm α) (missing : Option α) (get : σ → α)
    (rest : JsonFields σ κ) : JsonFields σ (α → κ) :=
  { value key f.toJson f.fromJson missing get rest with
    Literal := rest.Literal
    literal := fun s h => ⟨f.literal _, rest.literal s h⟩ }

/-- A field that is read back. -/
def codec (key : String) (c : JsonCodec α) (missing : Option α) (get : σ → α)
    (rest : JsonFields σ κ) : JsonFields σ (α → κ) := form key c.toJsonForm missing get rest

/-- A field that has to be there. -/
abbrev field (key : String) (c : JsonCodec α) (get : σ → α) (rest : JsonFields σ κ) :
    JsonFields σ (α → κ) := codec key c none get rest

/-- A field with a default. -/
abbrev fieldOr (key : String) (c : JsonCodec α) (default : α) (get : σ → α)
    (rest : JsonFields σ κ) : JsonFields σ (α → κ) := codec key c (some default) get rest

@[simp]
lemma reread_nil (mk s : σ) : nil.reread mk s = some mk := rfl

section

variable (key : String) (missing : Option α) (get : σ → α) (rest : JsonFields σ κ) (mk : α → κ)
  (s : σ)

@[simp]
lemma reread_value (toJson : α → Json) (fromJson : Json → Option α) :
    (value key toJson fromJson missing get rest).reread mk s
      = (fromJson (toJson (get s))).bind fun a => rest.reread (mk a) s := rfl

@[simp]
lemma reread_form (f : JsonForm α) : (form key f missing get rest).reread mk s
    = (f.reread (get s)).bind fun a => rest.reread (mk a) s := rfl

@[simp]
lemma reread_codec (c : JsonCodec α) :
    (codec key c missing get rest).reread mk s = rest.reread (mk (get s)) s := by
  rw [codec, reread_form, JsonForm.reread, c.fromJson_toJson, Option.bind_some]

end

lemma lookup_of_nodup {ms : List (String × Json)} (h : (ms.map Prod.fst).Nodup)
    {e : String × Json} (he : e ∈ ms) : ms.lookup e.1 = some e.2 := by
  induction ms with
  | nil => cases he
  | cons m ms ih =>
    rw [List.map_cons, List.nodup_cons] at h
    rcases List.mem_cons.mp he with rfl | he
    · exact List.lookup_cons_self
    · have hne : (e.1 == m.1) = false :=
        beq_false_of_ne fun heq => h.1 (heq ▸ List.mem_map_of_mem he)
      rw [List.lookup_cons, hne]
      exact ih h.2 he

/-- **What is read of the members of a record**, when no two fields have one key. -/
theorem read_write_self (fields : JsonFields σ κ) (hkeys : fields.keys.Nodup) (mk : κ) (s : σ) :
    fields.read mk (fields.write s) = fields.reread mk s :=
  fields.read_write mk s _ fun _ he => lookup_of_nodup (by rwa [fields.keys_write]) he

end JsonFields

/-- A record as an object, built by its constructor. -/
def JsonForm.record {σ κ : Type} (mk : κ) (fields : JsonFields σ κ)
    (hliteral : ∀ s, fields.Literal s := by exact fun _ => trivial) : JsonForm σ where
  toJson s := .object (fields.write s)
  fromJson
    | .object ms => fields.read mk ms
    | _ => none
  literal s := ⟨trivial, fields.literal s (hliteral s)⟩

lemma JsonForm.reread_record {σ κ : Type} {fields : JsonFields σ κ} (hkeys : fields.keys.Nodup)
    (hliteral : ∀ s, fields.Literal s) (mk : κ) (s : σ) :
    (record mk fields hliteral).reread s = fields.reread mk s :=
  fields.read_write_self hkeys mk s

namespace JsonCodec

open Std

variable {α : Type}

/-! ### Scalars -/

/-- A string. -/
def string : JsonCodec String where
  toJson := .string
  fromJson
    | .string s => some s
    | _ => none
  fromJson_toJson _ := rfl
  literal _ := trivial

/-- A boolean. -/
def bool : JsonCodec Bool where
  toJson := .bool
  fromJson
    | .bool b => some b
    | _ => none
  fromJson_toJson _ := rfl
  literal _ := trivial

/-- The `Int64` a number holds, if it is one. -/
def readInt64 : Json → Option Int64
  | .number (.posInt n) => if n.toNat < 2 ^ 63 then some n.toInt64 else none
  | .number (.negInt n) => some n
  | _ => none

/-- The bits of a non-negative `Int64` are its value. -/
lemma toNat_toUInt64 {n : Int64} (h : 0 ≤ n.toInt) : (n.toUInt64.toNat : ℤ) = n.toInt := by
  have hbits : n.toUInt64.toNat = n.toBitVec.toNat := rfl
  have hlt := n.toBitVec.isLt
  rw [← Int64.toInt_toBitVec, BitVec.toInt_eq_toNat_cond] at h ⊢
  rw [hbits]
  split_ifs at h ⊢ with hhalf
  · rfl
  · omega

lemma readInt64_ofInt64 (n : Int64) : readInt64 (.number (.ofInt64 n)) = some n := by
  rw [JsonNumber.ofInt64]
  split_ifs with h
  · have h0 : 0 ≤ n.toInt := by simpa using Int64.le_iff_toInt_le.mp h
    have hn := toNat_toUInt64 h0
    have hlt := n.toInt_lt
    rw [readInt64, if_pos (by omega)]
    simp
  · rfl

/-- A number in the range of `i64`. -/
def int64 : JsonCodec Int64 where
  toJson n := .number (.ofInt64 n)
  fromJson := readInt64
  fromJson_toJson := readInt64_ofInt64
  literal := JsonNumber.ofInt64_literal

/-- A number in the range of `u32`. -/
def uint32 : JsonCodec UInt32 where
  toJson n := .number (.posInt n.toUInt64)
  fromJson
    | .number (.posInt n) => if n.toNat < 2 ^ 32 then some n.toUInt32 else none
    | _ => none
  fromJson_toJson n := by
    have h : n.toUInt64.toNat < 2 ^ 32 := by simpa using n.toNat_lt
    simp only [h, if_true, UInt32.toUInt32_toUInt64]
  literal _ := trivial

/-- A number in the range of `u64`. -/
def uint64 : JsonCodec UInt64 where
  toJson n := .number (.posInt n)
  fromJson
    | .number (.posInt n) => some n
    | _ => none
  fromJson_toJson _ := rfl
  literal _ := trivial

/-- A natural number below a bound. -/
def below (bound : ℕ) (hbound : bound ≤ 2 ^ 64) : JsonCodec { n : ℕ // n < bound } where
  toJson n := .number (.posInt (.ofNat n.1))
  fromJson
    | .number (.posInt n) => if h : n.toNat < bound then some ⟨n.toNat, h⟩ else none
    | _ => none
  fromJson_toJson n := by
    have hval : (UInt64.ofNat n.1).toNat = n.1 := UInt64.toNat_ofNat_of_lt (n.2.trans_le hbound)
    simp only [hval, n.2, dite_true]
  literal _ := trivial

/-- A number in the range of `u8`. -/
def byte : JsonCodec UInt8 where
  toJson n := .number (.posInt n.toUInt64)
  fromJson
    | .number (.posInt n) => if n.toNat < 256 then some n.toUInt8 else none
    | _ => none
  fromJson_toJson n := by
    have h : n.toUInt64.toNat < 256 := by simpa using n.toNat_lt
    simp only [h, if_true, UInt8.toUInt8_toUInt64]
  literal _ := trivial

/-! ### Containers -/

/-- The reading of an optional value: `null` is an absent one. -/
def readOption (c : JsonCodec α) : Json → Option (Option α)
  | .null => some none
  | v => (c.fromJson v).map some

lemma readOption_of_ne_null (c : JsonCodec α) {v : Json} (h : v ≠ .null) :
    c.readOption v = (c.fromJson v).map some := by
  cases v with
  | null => exact absurd rfl h
  | bool b => rfl
  | number n => rfl
  | string s => rfl
  | array items => rfl
  | object members => rfl

/-- An optional value, of a type whose values are never written as `null`. -/
def option (c : JsonCodec α) (h : ∀ a, c.toJson a ≠ .null) : JsonCodec (Option α) where
  toJson
    | none => .null
    | some a => c.toJson a
  fromJson := c.readOption
  fromJson_toJson a := by
    cases a with
    | none => rfl
    | some a => rw [c.readOption_of_ne_null (h a), c.fromJson_toJson, Option.map_some]
  literal a := by
    cases a with
    | none => trivial
    | some a => exact c.literal a

/-- An optional string. -/
def optionString : JsonCodec (Option String) := string.option fun _ h => Json.noConfusion h

/-- An optional `i64`. -/
def optionInt64 : JsonCodec (Option Int64) := int64.option fun _ h => Json.noConfusion h

/-- A list read back element by element. -/
lemma mapM_read {β γ : Type} {write : β → γ} {read : γ → Option β}
    (h : ∀ b, read (write b) = some b) (bs : List β) : (bs.map write).mapM read = some bs := by
  induction bs with
  | nil => rfl
  | cons b bs ih => simp [List.mapM_cons, h b, ih]

/-- A list as an array. -/
def list (c : JsonCodec α) : JsonCodec (List α) where
  toJsonForm := c.toJsonForm.list
  fromJson_toJson as := mapM_read c.fromJson_toJson as

/-- The members of a map, by key. -/
def members (c : JsonCodec α) (es : List (String × α)) : List (String × Json) :=
  es.map fun e => (e.1, c.toJson e.2)

/-- A map is rebuilt from its entries. -/
lemma ofList_toList (m : ExtTreeMap String α) : ExtTreeMap.ofList m.toList = m := by
  apply ExtTreeMap.ext_getElem?
  intro k
  cases hk : m[k]? with
  | some a =>
    refine ExtTreeMap.getElem?_ofList_of_mem (k := k) (by simp)
      ExtTreeMap.distinct_keys_toList ?_
    exact ExtTreeMap.mem_toList_iff_getElem?_eq_some.mpr hk
  | none =>
    refine ExtTreeMap.getElem?_ofList_of_contains_eq_false ?_
    rw [Bool.eq_false_iff, Ne, List.contains_iff_mem, List.mem_map]
    rintro ⟨⟨k', a⟩, hmem, rfl⟩
    rw [ExtTreeMap.mem_toList_iff_getElem?_eq_some.mp hmem] at hk
    cases hk

/-- A map as an object. -/
def map (c : JsonCodec α) : JsonCodec (ExtTreeMap String α) where
  toJson m := .object (c.members m.toList)
  fromJson
    | .object ms =>
      (ms.mapM fun e => (c.fromJson e.2).map fun a => (e.1, a)).map fun es => .ofList es
    | _ => none
  fromJson_toJson m := by
    have hread : (c.members m.toList).mapM (fun e => (c.fromJson e.2).map fun a => (e.1, a))
        = some m.toList := mapM_read (fun e => by simp [c.fromJson_toJson]) m.toList
    simp only [hread, Option.map_some, ofList_toList]
  literal _ := ⟨trivial, Json.everywhereMembers_iff.mpr
    (List.forall_mem_map.mpr fun e _ => c.literal e.2)⟩

/-! ### Records and enumerations -/

/-- A record as an object, built by its constructor. -/
def record {κ : Type} (mk : κ) (fields : JsonFields α κ)
    (hliteral : ∀ a, fields.Literal a := by exact fun _ => trivial)
    (hkeys : fields.keys.Nodup := by decide)
    (hmk : ∀ a, fields.reread mk a = some a := by simp) : JsonCodec α where
  toJsonForm := .record mk fields hliteral
  fromJson_toJson a := (JsonForm.reread_record hkeys hliteral mk a).trans (hmk a)

/-- The name of a variant in a table. -/
def nameIn [DecidableEq α] (names : List (String × α)) (a : α) : String :=
  ((names.find? fun e => e.2 = a).map Prod.fst).getD ""

/-- An enumeration, each unit variant written as its name. -/
def variant [DecidableEq α] (names : List (String × α))
    (h : ∀ a, names.lookup (nameIn names a) = some a := by rintro ⟨⟩ <;> rfl) : JsonCodec α where
  toJson a := .string (nameIn names a)
  fromJson
    | .string s => names.lookup s
    | _ => none
  fromJson_toJson := h
  literal _ := trivial

/-- **What was encoded is decoded.** -/
theorem decode_encode (c : JsonCodec α) (a : α) : c.decode (c.encode a) = some a :=
  (c.toJsonForm.decode_encode a).trans (c.fromJson_toJson a)

end JsonCodec
