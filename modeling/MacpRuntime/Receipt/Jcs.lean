import MacpRuntime.Lib.FloatText

/-!
Canonical JSON: `receipt/jcs.rs`.  The members of an object are sorted by their UTF-16 code units;
Rust's shortest scientific form of a double is a parameter.  The canonical bytes of a value without
floats are the compact text of its sorted form, and **such values have the same canonical bytes only
if they are equal** (`canonicalize_injective`).
-/

namespace MacpRuntime.Jcs

open Json

/-! ### The writer -/

/-- The UTF-16 code units of a character. -/
def utf16Char (c : Char) : List ℕ :=
  if c.toNat < 0x10000 then [c.toNat]
  else [0xD800 + (c.toNat - 0x10000) / 0x400, 0xDC00 + (c.toNat - 0x10000) % 0x400]

/-- The UTF-16 code units of a string. -/
def utf16 (s : String) : List ℕ := s.toList.flatMap utf16Char

/-- The order of the members of an object. -/
def KeyLe {α : Type} (a b : String × α) : Prop := utf16 a.1 ≤ utf16 b.1

instance {α : Type} : DecidableRel (@KeyLe α) := fun a b =>
  inferInstanceAs (Decidable (utf16 a.1 ≤ utf16 b.1))

/-- One character of a string literal: `write_string`, and `push_json_string` of
`commitment_hash.rs`, which is the same. -/
def escape (c : Char) : List Char :=
  if c = quote then [backslash, quote]
  else if c = backslash then [backslash, backslash]
  else if c = Char.ofNat 0x08 then [backslash, 'b']
  else if c = '\t' then [backslash, 't']
  else if c = '\n' then [backslash, 'n']
  else if c = Char.ofNat 0x0c then [backslash, 'f']
  else if c = '\r' then [backslash, 'r']
  else if c.toNat < 0x20 then
    [backslash, 'u', '0', '0', hexDigit (c.toNat / 16), hexDigit (c.toNat % 16)]
  else [c]

/-- A string with its quotes. -/
def writeString (s : String) : List Char := [quote] ++ s.toList.flatMap escape ++ [quote]

/-- What the writer takes from elsewhere: the doubles of JSON texts, and the shortest scientific
form of a positive double. -/
structure Numbers where
  floats : FloatText
  scientific : Float → List Char

/-- The text before and after the first occurrence of a character. -/
def splitOnce (c : Char) (cs : List Char) : Option (List Char × List Char) :=
  if c ∈ cs then some (cs.takeWhile (· ≠ c), (cs.dropWhile (· ≠ c)).tail) else none

/-- The digits laid out as ECMAScript prints a number; `n` is the position of the point. -/
def esLayout (digits : List Char) (n : ℤ) : List Char :=
  let k : ℤ := digits.length
  if k ≤ n ∧ n ≤ 21 then digits ++ List.replicate (n - k).toNat '0'
  else if 0 < n ∧ n ≤ 21 then digits.take n.toNat ++ '.' :: digits.drop n.toNat
  else if -6 < n ∧ n ≤ 0 then '0' :: '.' :: (List.replicate (-n).toNat '0' ++ digits)
  else
    let e := n - 1
    let e := if 0 ≤ e then '+' :: (toString e).toList else (toString e).toList
    match digits with
    | [d] => d :: 'e' :: e
    | ds => ds.take 1 ++ '.' :: (ds.drop 1 ++ 'e' :: e)

variable (numbers : Numbers)

/-- A double as ECMAScript shows it. -/
def esNumber (f : Float) : Option (List Char) :=
  if !f.isFinite then none
  else if f == 0.0 then some ['0']
  else do
    let (mantissa, exp) ← splitOnce 'e' (numbers.scientific f.abs)
    let exp ← (String.ofList exp).toInt?
    some ((if f < 0.0 then ['-'] else []) ++ esLayout (mantissa.filter (· ≠ '.')) (exp + 1))

/-- A number. -/
def writeNumber : JsonNumber → Option (List Char)
  | .posInt n => some (decimal n.toNat)
  | .negInt n => some ('-' :: decimal n.toInt.natAbs)
  | .float text => (numbers.floats.read text).bind (esNumber numbers)

/-- Texts separated by commas. -/
def commas : List (List Char) → List Char
  | [] => []
  | t :: ts => t ++ (if ts.isEmpty then [] else ',' :: commas ts)

/-- The text of a member whose value is written. -/
def memberText (m : String × List Char) : List Char := writeString m.1 ++ ':' :: m.2

mutual

/-- The text of a value.  The values of an object's members are written before the members are
sorted, which the sort does not see. -/
def writeValue (numbers : Numbers) : Json → Option (List Char)
  | .null => some "null".toList
  | .bool b => some (if b then "true" else "false").toList
  | .number n => writeNumber numbers n
  | .string s => some (writeString s)
  | .array items => (writeItems numbers items).map fun ts => '[' :: (commas ts ++ [']'])
  | .object members =>
    (writeMembers numbers members).map fun ms =>
      openBrace :: (commas ((ms.insertionSort KeyLe).map memberText) ++ [closeBrace])

/-- The items of an array. -/
def writeItems (numbers : Numbers) : List Json → Option (List (List Char))
  | [] => some []
  | v :: vs => do
    let t ← writeValue numbers v
    let ts ← writeItems numbers vs
    some (t :: ts)

/-- The members of an object. -/
def writeMembers (numbers : Numbers) : List (String × Json) → Option (List (String × List Char))
  | [] => some []
  | (k, v) :: ms => do
    let t ← writeValue numbers v
    let ts ← writeMembers numbers ms
    some ((k, t) :: ts)

end

/-- The canonical bytes of a value; nothing for a number that has none. -/
def canonicalize (value : Json) : Option (List UInt8) :=
  (writeValue numbers value).map fun cs => Utf8.encode (String.ofList cs)

/-! ### Strings and lists as the compact writer has them -/

lemma escape_eq (c : Char) : escape c = escapeChar c := by
  have hof (n : ℕ) (hn : n < 32) : c = Char.ofNat n ↔ c.toNat = n := by
    constructor
    · rintro rfl
      interval_cases n <;> rfl
    · rintro rfl
      exact (Char.ofNat_toNat c).symm
  have h8 := hof 8 (by omega)
  have h9 : c = '\t' ↔ c.toNat = 9 := hof 9 (by omega)
  have h10 : c = '\n' ↔ c.toNat = 10 := hof 10 (by omega)
  have h12 := hof 12 (by omega)
  have h13 : c = '\r' ↔ c.toNat = 13 := hof 13 (by omega)
  unfold escape escapeChar shortEscape
  simp only [h8, h9, h10, h12, h13]
  split_ifs <;> first | rfl | omega

lemma writeString_eq (s : String) : writeString s = Json.writeString s := by
  rw [writeString, Json.writeString, funext escape_eq]
  rfl

lemma commas_map_write (vs : List Json) : commas (vs.map write) = Json.writeItems vs := by
  induction vs with
  | nil => rfl
  | cons v vs ih => rw [List.map_cons, commas, ih, Json.writeItems, List.isEmpty_map]

lemma commas_map_memberText (ms : List (String × Json)) :
    commas ((ms.map fun m => (m.1, write m.2)).map memberText) = Json.writeMembers ms := by
  induction ms with
  | nil => rfl
  | cons m ms ih =>
    obtain ⟨k, v⟩ := m
    rw [List.map_cons, List.map_cons, commas, ih, Json.writeMembers, List.isEmpty_map,
      List.isEmpty_map, memberText, writeString_eq, List.append_assoc, List.cons_append]

/-! ### Sorted values -/

mutual

/-- The value with the members of every object in the order of their code units. -/
def sorted : Json → Json
  | .array items => .array (sortedItems items)
  | .object members => .object ((sortedMembers members).insertionSort KeyLe)
  | v => v

/-- Items with sorted objects. -/
def sortedItems : List Json → List Json
  | [] => []
  | v :: vs => sorted v :: sortedItems vs

/-- Members with sorted objects. -/
def sortedMembers : List (String × Json) → List (String × Json)
  | [] => []
  | (k, v) :: ms => (k, sorted v) :: sortedMembers ms

end

mutual

lemma writeValue_eq (numbers : Numbers) : ∀ (v : Json), v.Integral →
    writeValue numbers v = some (write (sorted v))
  | .null, _ => rfl
  | .bool _, _ => rfl
  | .number (.posInt _), _ => rfl
  | .number (.negInt _), _ => rfl
  | .number (.float _), h => h.elim
  | .string s, _ => by rw [writeValue, writeString_eq]; rfl
  | .array items, h => by
    rw [writeValue, writeItems_eq numbers items h, Option.map_some, commas_map_write,
      sorted, write]
  | .object members, h => by
    rw [writeValue, writeMembers_eq numbers members h.2, Option.map_some, sorted, write,
      ← List.map_insertionSort KeyLe KeyLe (fun m : String × Json => (m.1, write m.2)) _
        fun _ _ _ _ => Iff.rfl, commas_map_memberText]

lemma writeItems_eq (numbers : Numbers) : ∀ (vs : List Json),
    EverywhereItems JsonNumber.Integral (fun _ => True) vs →
    writeItems numbers vs = some ((sortedItems vs).map write)
  | [], _ => rfl
  | v :: vs, h => by
    rw [writeItems, writeValue_eq numbers v h.1, writeItems_eq numbers vs h.2,
      sortedItems]
    rfl

lemma writeMembers_eq (numbers : Numbers) : ∀ (ms : List (String × Json)),
    EverywhereMembers JsonNumber.Integral (fun _ => True) ms →
    writeMembers numbers ms = some ((sortedMembers ms).map fun m => (m.1, write m.2))
  | [], _ => rfl
  | (k, v) :: ms, h => by
    rw [writeMembers, writeValue_eq numbers v h.1,
      writeMembers_eq numbers ms h.2, sortedMembers]
    rfl

end

variable {v : Json} {ms : List (String × Json)}

/-- The canonical bytes of a value without floats are those of its sorted form. -/
lemma canonicalize_eq (h : v.Integral) : canonicalize numbers v = some (toVec (sorted v)) := by
  rw [canonicalize, writeValue_eq numbers v h, Option.map_some, toVec]

section

variable {num : JsonNumber → Prop} {obj obj' : List (String × Json) → Prop}

mutual

/-- Sorting keeps what holds at every depth, if it keeps it for the members of an object. -/
lemma everywhere_sorted (hobj : ∀ ms, obj ms → obj' ((sortedMembers ms).insertionSort KeyLe)) :
    ∀ v : Json, Everywhere num obj v → Everywhere num obj' (sorted v)
  | .null, h | .bool _, h | .number _, h | .string _, h => h
  | .array items, h => everywhereItems_sorted hobj items h
  | .object members, h => by
    refine ⟨hobj members h.1, everywhereMembers_iff.mpr fun m hm => ?_⟩
    exact everywhereMembers_iff.mp (everywhereMembers_sorted hobj members h.2) m
      ((List.mem_insertionSort KeyLe).mp hm)

lemma everywhereItems_sorted
    (hobj : ∀ ms, obj ms → obj' ((sortedMembers ms).insertionSort KeyLe)) :
    ∀ vs : List Json, EverywhereItems num obj vs → EverywhereItems num obj' (sortedItems vs)
  | [], h => h
  | v :: vs, h => ⟨everywhere_sorted hobj v h.1, everywhereItems_sorted hobj vs h.2⟩

lemma everywhereMembers_sorted
    (hobj : ∀ ms, obj ms → obj' ((sortedMembers ms).insertionSort KeyLe)) :
    ∀ ms : List (String × Json), EverywhereMembers num obj ms →
      EverywhereMembers num obj' (sortedMembers ms)
  | [], h => h
  | (_, v) :: ms, h => ⟨everywhere_sorted hobj v h.1, everywhereMembers_sorted hobj ms h.2⟩

end

end

lemma integral_sorted (v : Json) (h : v.Integral) : (sorted v).Integral :=
  everywhere_sorted (fun _ => id) v h

/-- An object whose members are in order, with sorted values, is sorted. -/
lemma sorted_object (hvalues : sortedMembers ms = ms)
    (hkeys : (ms.map Prod.fst).Pairwise fun a b => utf16 a ≤ utf16 b) :
    sorted (.object ms) = .object ms := by
  rw [List.pairwise_map] at hkeys
  have hsorted : ms.Pairwise KeyLe := hkeys
  rw [sorted, hvalues, hsorted.insertionSort_eq]

/-! ### Injectivity -/

/-- The members of an object as a map holds them: under distinct keys, in their order. -/
def Ordered {α : Type} (ms : List (String × α)) : Prop :=
  ms.Pairwise fun a b => Utf8.bytes a.1 < Utf8.bytes b.1

lemma ordered_of_keys {α : Type} {ms : List (String × α)}
    (h : (ms.map Prod.fst).Pairwise fun a b => Utf8.bytes a < Utf8.bytes b) : Ordered ms := by
  rw [List.pairwise_map] at h
  exact h

/-- A value whose objects are maps. -/
def Keyed : Json → Prop := Everywhere (fun _ => True) Ordered

lemma map_fst_sortedMembers (ms : List (String × Json)) :
    (sortedMembers ms).map Prod.fst = ms.map Prod.fst := by
  induction ms with
  | nil => rfl
  | cons m ms ih => rw [sortedMembers, List.map_cons, List.map_cons, ih]

lemma Ordered.sortedMembers (h : Ordered ms) : Ordered (sortedMembers ms) := by
  refine ordered_of_keys ?_
  rw [map_fst_sortedMembers, List.pairwise_map]
  exact h

/-- Two maps with the same members in some order are the same list. -/
lemma Ordered.eq_of_perm {α : Type} {ms ns : List (String × α)} (hms : Ordered ms)
    (hns : Ordered ns) (h : ms.Perm ns) : ms = ns := by
  refine h.eq_of_pairwise ?_ hms hns
  intro a b _ _ hab hba
  exact absurd hab (lt_asymm hba)

mutual

lemma sorted_injective : ∀ (v w : Json), Keyed v → Keyed w → sorted v = sorted w → v = w
  | .null, w, _, _, h => by cases w <;> first | rfl | (exact Json.noConfusion h)
  | .bool _, w, _, _, h => by cases w <;> first | exact h | (exact Json.noConfusion h)
  | .number _, w, _, _, h => by cases w <;> first | exact h | (exact Json.noConfusion h)
  | .string _, w, _, _, h => by cases w <;> first | exact h | (exact Json.noConfusion h)
  | .array items, w, hv, hw, h => by
    cases w with
    | array items' =>
      rw [sorted, sorted, Json.array.injEq] at h
      rw [sortedItems_injective items items' hv hw h]
    | _ => exact Json.noConfusion h
  | .object members, w, hv, hw, h => by
    cases w with
    | object members' =>
      rw [sorted, sorted, Json.object.injEq] at h
      -- both lists of members are permuted into the same one
      have hperm := (List.perm_insertionSort KeyLe (sortedMembers members)).symm.trans
        (h ▸ List.perm_insertionSort KeyLe (sortedMembers members'))
      have heq := hv.1.sortedMembers.eq_of_perm hw.1.sortedMembers hperm
      rw [sortedMembers_injective members members' hv.2 hw.2 heq]
    | _ => exact Json.noConfusion h

lemma sortedItems_injective : ∀ (vs ws : List Json), EverywhereItems (fun _ => True) Ordered vs →
    EverywhereItems (fun _ => True) Ordered ws → sortedItems vs = sortedItems ws → vs = ws
  | [], ws, _, _, h => by
    cases ws with
    | nil => rfl
    | cons w ws => cases h
  | v :: vs, ws, hv, hw, h => by
    cases ws with
    | nil => cases h
    | cons w ws =>
      rw [sortedItems, sortedItems, List.cons.injEq] at h
      rw [sorted_injective v w hv.1 hw.1 h.1,
        sortedItems_injective vs ws hv.2 hw.2 h.2]

lemma sortedMembers_injective : ∀ (ms ns : List (String × Json)),
    EverywhereMembers (fun _ => True) Ordered ms → EverywhereMembers (fun _ => True) Ordered ns →
    sortedMembers ms = sortedMembers ns → ms = ns
  | [], ns, _, _, h => by
    cases ns with
    | nil => rfl
    | cons n ns => cases h
  | (k, v) :: ms, ns, hm, hn, h => by
    cases ns with
    | nil => cases h
    | cons n ns =>
      obtain ⟨l, w⟩ := n
      rw [sortedMembers, sortedMembers, List.cons.injEq, Prod.mk.injEq] at h
      rw [h.1.1, sorted_injective v w hm.1 hn.1 h.1.2,
        sortedMembers_injective ms ns hm.2 hn.2 h.2]

end

/-- Equal canonical bytes are those of one sorted value. -/
lemma sorted_eq_of_canonicalize {w : Json} (hv : v.Integral) (hw : w.Integral)
    (h : canonicalize numbers v = canonicalize numbers w) : sorted v = sorted w := by
  rw [canonicalize_eq numbers hv, canonicalize_eq numbers hw, Option.some.injEq] at h
  have hread := fromSlice_toVec (integral_sorted v hv).literal
  rw [h, fromSlice_toVec (integral_sorted w hw).literal, Option.some.injEq] at hread
  exact hread.symm

/-- **Values without floats have the same canonical bytes only if they are equal.** -/
theorem canonicalize_injective {w : Json} (hv : v.Integral) (hw : w.Integral)
    (hvk : Keyed v) (hwk : Keyed w) (h : canonicalize numbers v = canonicalize numbers w) : v = w :=
  sorted_injective v w hvk hwk (sorted_eq_of_canonicalize numbers hv hw h)

/-! ### Values in canonical form -/

/-- A value without floats whose members are in both orders. -/
structure Canonical (v : Json) : Prop where
  integral : v.Integral
  keyed : Keyed v
  sorted_eq : sorted v = v

lemma Canonical.canonicalize_eq (h : Canonical v) (numbers : Numbers) :
    canonicalize numbers v = some (toVec v) := by
  rw [Jcs.canonicalize_eq numbers h.integral, h.sorted_eq]

lemma canonical_string (s : String) : Canonical (.string s) := ⟨trivial, trivial, rfl⟩

lemma canonical_object (hbytes : (ms.map Prod.fst).Pairwise fun a b => Utf8.bytes a < Utf8.bytes b)
    (hunits : (ms.map Prod.fst).Pairwise fun a b => utf16 a ≤ utf16 b)
    (hvalues : ∀ m ∈ ms, Canonical m.2) : Canonical (.object ms) := by
  have hsorted : sortedMembers ms = ms := by
    clear hbytes hunits
    induction ms with
    | nil => rfl
    | cons m ms ih =>
      rw [sortedMembers, (hvalues m List.mem_cons_self).sorted_eq,
        ih fun m' hm' => hvalues m' (List.mem_cons_of_mem m hm')]
  refine ⟨⟨trivial, ?_⟩, ⟨ordered_of_keys hbytes, ?_⟩, sorted_object hsorted hunits⟩
  · exact everywhereMembers_iff.mpr fun m hm => (hvalues m hm).integral
  · exact everywhereMembers_iff.mpr fun m hm => (hvalues m hm).keyed

lemma canonical_pair {k l : String} {w : Json} (hbytes : Utf8.bytes k < Utf8.bytes l)
    (hunits : utf16 k ≤ utf16 l) (hv : Canonical v) (hw : Canonical w) :
    Canonical (.object [(k, v), (l, w)]) := by
  refine canonical_object (List.pairwise_pair.mpr hbytes) (List.pairwise_pair.mpr hunits) ?_
  rintro m hm
  rcases List.mem_pair.mp hm with rfl | rfl
  · exact hv
  · exact hw

lemma canonical_array {vs : List Json} (h : ∀ v ∈ vs, Canonical v) : Canonical (.array vs) := by
  have hsorted : sortedItems vs = vs := by
    induction vs with
    | nil => rfl
    | cons v vs ih =>
      rw [sortedItems, (h v List.mem_cons_self).sorted_eq,
        ih fun w hw => h w (List.mem_cons_of_mem v hw)]
  refine ⟨everywhereItems_iff.mpr fun v hv => (h v hv).integral,
    everywhereItems_iff.mpr fun v hv => (h v hv).keyed, by rw [sorted, hsorted]⟩

end MacpRuntime.Jcs
