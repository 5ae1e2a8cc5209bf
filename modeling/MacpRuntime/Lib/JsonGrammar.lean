import MacpRuntime.Lib.Json

/-!
The grammar of JSON texts, with blanks and every escape, and a reader for it.  A number that is no
integer in range is left as its text.

* `parse_of_denotes`: **every text is read to the value it denotes**, and so it denotes one only;
* `denotes_write`: the compact text of a value denotes it, and so **a written value is read back**
  (`fromSlice_toVec`).
-/

namespace Json

/-! ### Strings -/

/-- The value of a hexadecimal digit of either case. -/
def hexDigit? (c : Char) : Option ℕ :=
  if 48 ≤ c.toNat ∧ c.toNat ≤ 57 then some (c.toNat - 48)
  else if 97 ≤ c.toNat ∧ c.toNat ≤ 102 then some (c.toNat - 87)
  else if 65 ≤ c.toNat ∧ c.toNat ≤ 70 then some (c.toNat - 55)
  else none

/-- The code unit four hexadecimal digits denote. -/
def unit? (a b c d : Char) : Option ℕ := do
  let a ← hexDigit? a
  let b ← hexDigit? b
  let c ← hexDigit? c
  let d ← hexDigit? d
  some (((a * 16 + b) * 16 + c) * 16 + d)

/-- The character a letter after a backslash stands for. -/
def letter? (l : Char) : Option Char := if l = '/' then some '/' else unescape l

/-- The first unit of a surrogate pair. -/
def HighSurrogate (n : ℕ) : Prop := 0xD800 ≤ n ∧ n < 0xDC00

/-- The second unit of a surrogate pair. -/
def LowSurrogate (n : ℕ) : Prop := 0xDC00 ≤ n ∧ n < 0xE000

instance (n : ℕ) : Decidable (HighSurrogate n) := inferInstanceAs (Decidable (_ ∧ _))

instance (n : ℕ) : Decidable (LowSurrogate n) := inferInstanceAs (Decidable (_ ∧ _))

/-- The character of a pair of surrogates. -/
def ofSurrogates (hi lo : ℕ) : Char := Char.ofNat (0x10000 + (hi - 0xD800) * 0x400 + (lo - 0xDC00))

/-- One character of a string: itself, a letter, a code unit or a pair of them. -/
inductive CharText : List Char → Char → Prop
  | plain {c : Char} : 32 ≤ c.toNat → c ≠ quote → c ≠ backslash → CharText [c] c
  | letter {l c : Char} : letter? l = some c → CharText [backslash, l] c
  | unit {x₁ x₂ x₃ x₄ : Char} {n : ℕ} : unit? x₁ x₂ x₃ x₄ = some n → ¬ HighSurrogate n →
      ¬ LowSurrogate n → CharText [backslash, 'u', x₁, x₂, x₃, x₄] (Char.ofNat n)
  | pair {x₁ x₂ x₃ x₄ y₁ y₂ y₃ y₄ : Char} {hi lo : ℕ} : unit? x₁ x₂ x₃ x₄ = some hi →
      unit? y₁ y₂ y₃ y₄ = some lo → HighSurrogate hi → LowSurrogate lo →
      CharText [backslash, 'u', x₁, x₂, x₃, x₄, backslash, 'u', y₁, y₂, y₃, y₄]
        (ofSurrogates hi lo)

/-- The characters between the quotes. -/
inductive BodyText : List Char → List Char → Prop
  | nil : BodyText [] []
  | cons {text rest chars : List Char} {c : Char} : CharText text c → BodyText rest chars →
      BodyText (text ++ rest) (c :: chars)

/-- A string literal. -/
def StringText (text : List Char) (s : String) : Prop :=
  ∃ body, BodyText body s.toList ∧ text = quote :: (body ++ [quote])

/-! ### Values -/

variable (cs : List Char)

/-- A blank character. -/
def isBlank (c : Char) : Bool := c = ' ' || c = '\t' || c = '\n' || c = '\r'

/-- Insignificant blanks. -/
def Blanks : Prop := ∀ c ∈ cs, isBlank c = true

mutual

/-- A value, without blanks around it. -/
inductive ValueText : List Char → Json → Prop
  | null : ValueText ['n', 'u', 'l', 'l'] .null
  | boolTrue : ValueText ['t', 'r', 'u', 'e'] (.bool true)
  | boolFalse : ValueText ['f', 'a', 'l', 's', 'e'] (.bool false)
  | number {cs : List Char} {n : JsonNumber} : NumberText cs → readNumber cs = some n →
      ValueText cs (.number n)
  | string {cs : List Char} {s : String} : StringText cs s → ValueText cs (.string s)
  | emptyArray {ws : List Char} : Blanks ws → ValueText ('[' :: (ws ++ [']'])) (.array [])
  | array {cs : List Char} {items : List Json} : ItemsText cs items →
      ValueText ('[' :: (cs ++ [']'])) (.array items)
  | emptyObject {ws : List Char} : Blanks ws →
      ValueText (openBrace :: (ws ++ [closeBrace])) (.object [])
  | object {cs : List Char} {members : List (String × Json)} : MembersText cs members →
      ValueText (openBrace :: (cs ++ [closeBrace])) (.object members)

/-- The items of an array, separated by commas. -/
inductive ItemsText : List Char → List Json → Prop
  | one {a cs b : List Char} {v : Json} : Blanks a → ValueText cs v → Blanks b →
      ItemsText (a ++ (cs ++ b)) [v]
  | more {a cs b rest : List Char} {v : Json} {vs : List Json} : Blanks a → ValueText cs v →
      Blanks b → ItemsText rest vs → ItemsText (a ++ (cs ++ (b ++ ',' :: rest))) (v :: vs)

/-- The members of an object, separated by commas. -/
inductive MembersText : List Char → List (String × Json) → Prop
  | one {a key b c cs d : List Char} {k : String} {v : Json} : Blanks a → StringText key k →
      Blanks b → Blanks c → ValueText cs v → Blanks d →
      MembersText (a ++ (key ++ (b ++ ':' :: (c ++ (cs ++ d))))) [(k, v)]
  | more {a key b c cs d rest : List Char} {k : String} {v : Json} {ms : List (String × Json)} :
      Blanks a → StringText key k → Blanks b → Blanks c → ValueText cs v → Blanks d →
      MembersText rest ms →
      MembersText (a ++ (key ++ (b ++ ':' :: (c ++ (cs ++ (d ++ ',' :: rest)))))) ((k, v) :: ms)

end

/-- A whole text. -/
def Denotes (text : List Char) (v : Json) : Prop :=
  ∃ a cs b, Blanks a ∧ ValueText cs v ∧ Blanks b ∧ text = a ++ (cs ++ b)

/-! ### The reader -/

/-- Drop a literal off the front. -/
def expect : List Char → List Char → Option (List Char)
  | [], cs => some cs
  | _ :: _, [] => none
  | l :: ls, c :: cs => if l = c then expect ls cs else none

/-- The character an escape stands for, and what follows it. -/
def readEscape : List Char → Option (Char × List Char)
  | 'u' :: x₁ :: x₂ :: x₃ :: x₄ :: cs =>
    (unit? x₁ x₂ x₃ x₄).bind fun n =>
      if HighSurrogate n then
        match cs with
        | _ :: _ :: y₁ :: y₂ :: y₃ :: y₄ :: cs =>
          (unit? y₁ y₂ y₃ y₄).map fun lo => (ofSurrogates n lo, cs)
        | _ => none
      else some (Char.ofNat n, cs)
  | l :: cs => (letter? l).map fun c => (c, cs)
  | [] => none

/-- The characters up to the closing quote, and what follows it; the first argument bounds their
number. -/
def readBody : ℕ → List Char → Option (List Char × List Char)
  | 0, _ => none
  | _ + 1, [] => none
  | k + 1, c :: cs =>
    if c = quote then some ([], cs)
    else if c = backslash then
      (readEscape cs).bind fun e => (readBody k e.2).map fun r => (e.1 :: r.1, r.2)
    else (readBody k cs).map fun r => (c :: r.1, r.2)

/-- Drop the blanks off the front. -/
def skip : List Char := cs.dropWhile isBlank

/-- A key, a colon and a value, with a reader of values. -/
def parseMember (value : List Char → Option (Json × List Char)) (cs : List Char) :
    Option ((String × Json) × List Char) :=
  (expect [quote] cs).bind fun cs =>
    (readBody (cs.length + 1) cs).bind fun key =>
      (expect [':'] (skip key.2)).bind fun rest =>
        (value (skip rest)).map fun r => ((String.ofList key.1, r.1), skip r.2)

mutual

/-- Read one value off the front; the first argument bounds the recursion. -/
def parseValue : ℕ → List Char → Option (Json × List Char)
  | 0, _ => none
  | _ + 1, [] => none
  | k + 1, c :: cs =>
    if c = quote then
      (readBody (cs.length + 1) cs).map fun r => (.string (String.ofList r.1), r.2)
    else if c = '[' then
      match skip cs with
      | [] => none
      | d :: rest =>
        if d = ']' then some (.array [], rest)
        else (parseItems k (d :: rest)).map fun r => (.array r.1, r.2)
    else if c = openBrace then
      match skip cs with
      | [] => none
      | d :: rest =>
        if d = closeBrace then some (.object [], rest)
        else (parseMembers k (d :: rest)).map fun r => (.object r.1, r.2)
    else if c = 'n' then (expect ['u', 'l', 'l'] cs).map fun rest => (.null, rest)
    else if c = 't' then (expect ['r', 'u', 'e'] cs).map fun rest => (.bool true, rest)
    else if c = 'f' then (expect ['a', 'l', 's', 'e'] cs).map fun rest => (.bool false, rest)
    else
      (readNumber ((c :: cs).takeWhile isNumberChar)).map fun n =>
        (.number n, (c :: cs).dropWhile isNumberChar)

/-- The items of an array, up to and including its closing bracket. -/
def parseItems : ℕ → List Char → Option (List Json × List Char)
  | 0, _ => none
  | k + 1, cs =>
    (parseValue k cs).bind fun r =>
      match skip r.2 with
      | ']' :: rest => some ([r.1], rest)
      | ',' :: rest => (parseItems k (skip rest)).map fun t => (r.1 :: t.1, t.2)
      | _ => none

/-- The members of an object, up to and including its closing brace. -/
def parseMembers : ℕ → List Char → Option (List (String × Json) × List Char)
  | 0, _ => none
  | k + 1, cs =>
    (parseMember (parseValue k) cs).bind fun r =>
      match r.2 with
      | [] => none
      | d :: rest =>
        if d = closeBrace then some ([r.1], rest)
        else if d = ',' then (parseMembers k (skip rest)).map fun t => (r.1 :: t.1, t.2)
        else none

end

/-- The value of a text. -/
def parse (text : List Char) : Option Json :=
  (parseValue (2 * text.length + 1) (skip text)).bind fun r =>
    if (skip r.2).isEmpty then some r.1 else none

/-! ### Strings are read -/

variable {c : Char} {text cs : List Char} {v : Json}

/-- A letter is read off the front: none is a `u`. -/
lemma readEscape_letter {l : Char} (h : letter? l = some c) (rest : List Char) :
    readEscape (l :: rest) = some (c, rest) := by
  rw [readEscape.eq_def]
  split
  · rename_i heq
    rw [(List.cons.inj heq).1] at h
    cases h
  · rename_i heq
    obtain ⟨rfl, rfl⟩ := List.cons.inj heq
    rw [h, Option.map_some]
  · rename_i heq
    cases heq

/-- An escape is read off the front. -/
lemma readEscape_of_charText (h : CharText (backslash :: text) c) (rest : List Char) :
    readEscape (text ++ rest) = some (c, rest) := by
  generalize htext : backslash :: text = whole at h
  cases h with
  | plain _ _ hne =>
    injection htext with hc
    exact absurd hc.symm hne
  | @letter l c hl =>
    obtain rfl : text = [l] := by injection htext
    exact readEscape_letter hl rest
  | unit hunit hhigh _ =>
    injection htext with _ htail
    rw [htail]
    simp only [List.cons_append, List.nil_append, readEscape, hunit, Option.bind_some,
      if_neg hhigh]
  | pair hhi hlo hhigh _ =>
    injection htext with _ htail
    rw [htail]
    simp only [List.cons_append, List.nil_append, readEscape, hhi, hlo, Option.bind_some,
      if_pos hhigh, Option.map_some]

lemma CharText.ne_nil (h : CharText text c) : text ≠ [] := by
  cases h <;> exact List.cons_ne_nil _ _

/-- One character is read off the front. -/
lemma readBody_of_charText (h : CharText text c) (k : ℕ) (rest : List Char) :
    readBody (k + 1) (text ++ rest) = (readBody k rest).map fun r => (c :: r.1, r.2) := by
  obtain ⟨d, text, rfl⟩ := List.exists_cons_of_ne_nil h.ne_nil
  rw [List.cons_append, readBody]
  by_cases hd : d = backslash
  · subst hd
    rw [if_neg (by decide), if_pos rfl, readEscape_of_charText h, Option.bind_some]
  · cases h with
    | plain _ hquote _ => rw [if_neg hquote, if_neg hd, List.nil_append]
    | _ => exact absurd rfl hd

lemma readBody_of_bodyText {body chars : List Char} (h : BodyText body chars) (rest : List Char) :
    ∀ k, body.length < k → readBody k (body ++ quote :: rest) = some (chars, rest) := by
  induction h with
  | nil =>
    intro k hk
    obtain ⟨k, rfl⟩ := Nat.exists_eq_succ_of_ne_zero (Nat.ne_of_gt hk)
    rw [List.nil_append, readBody, if_pos rfl]
  | cons hchar _ ih =>
    intro k hk
    have hpos := List.length_pos_of_ne_nil hchar.ne_nil
    rw [List.length_append] at hk
    obtain ⟨k, rfl⟩ := Nat.exists_eq_succ_of_ne_zero (n := k) (by omega)
    rw [List.append_assoc, readBody_of_charText hchar, ih k (by omega), Option.map_some]

/-- A string literal is read off the front, without its first quote. -/
lemma readBody_of_stringText {s : String} (h : StringText text s) (rest : List Char) :
    ∃ tail, text = quote :: tail
      ∧ readBody ((tail ++ rest).length + 1) (tail ++ rest) = some (s.toList, rest) := by
  obtain ⟨body, hbody, rfl⟩ := h
  refine ⟨_, rfl, ?_⟩
  rw [List.append_assoc, List.singleton_append]
  refine readBody_of_bodyText hbody rest _ ?_
  rw [List.length_append]
  omega

/-! ### Numbers are read -/

lemma isNumberChar_of_isDecimal (h : isDecimal c = true) : isNumberChar c = true := by
  rw [isNumberChar, h]
  rfl

/-- A number is made of number characters. -/
lemma NumberText.chars (h : NumberText cs) : cs ≠ [] ∧ ∀ c ∈ cs, isNumberChar c = true := by
  obtain ⟨sign, int, fraction, exponent, hsign, hint, hfraction, hexponent, rfl⟩ := h
  have hdigits : ∀ {ds : List Char}, Digits ds → ∀ c ∈ ds, isNumberChar c = true :=
    fun hds c hc => isNumberChar_of_isDecimal (hds.2 c hc)
  have hint' : int ≠ [] ∧ ∀ c ∈ int, isNumberChar c = true := by
    rcases hint with rfl | ⟨hds, -⟩
    · refine ⟨List.cons_ne_nil _ _, fun c hc => ?_⟩
      rw [List.mem_singleton.mp hc]
      rfl
    · exact ⟨hds.1, hdigits hds⟩
  refine ⟨by simp [hint'.1], fun c hc => ?_⟩
  rcases List.mem_append.mp hc with hc | hc
  · rcases hsign with rfl | rfl
    · cases hc
    · rw [List.mem_singleton.mp hc]
      rfl
  rcases List.mem_append.mp hc with hc | hc
  · exact hint'.2 c hc
  rcases List.mem_append.mp hc with hc | hc
  · rcases hfraction with rfl | ⟨ds, hds, rfl⟩
    · cases hc
    · rcases List.mem_cons.mp hc with rfl | hc
      · rfl
      · exact hdigits hds c hc
  · rcases hexponent with rfl | ⟨e, s, ds, he, hs, hds, rfl⟩
    · cases hc
    · rcases List.mem_cons.mp hc with rfl | hc
      · rcases he with rfl | rfl <;> rfl
      · rcases List.mem_append.mp hc with hc | hc
        · rcases hs with rfl | rfl | rfl
          · cases hc
          · rw [List.mem_singleton.mp hc]
            rfl
          · rw [List.mem_singleton.mp hc]
            rfl
        · exact hdigits hds c hc

/-! ### Values are read -/

/-- What follows a value does not continue a number. -/
def Ends (rest : List Char) : Prop := ∀ c ∈ rest.head?, isNumberChar c = false

lemma ends_cons (h : isNumberChar c = false) (rest : List Char) : Ends (c :: rest) := by
  intro d hd
  rw [List.head?_cons, Option.mem_some_iff] at hd
  rw [← hd, h]

/-- Number characters are taken off the front of what they end at. -/
lemma takeWhile_number {rest : List Char} (h : ∀ c ∈ cs, isNumberChar c = true)
    (hrest : Ends rest) :
    (cs ++ rest).takeWhile isNumberChar = cs
      ∧ (cs ++ rest).dropWhile isNumberChar = rest := by
  rw [List.takeWhile_append_of_pos h, List.dropWhile_append_of_pos h]
  cases rest with
  | nil => simp
  | cons c rest =>
    rw [List.takeWhile_cons, List.dropWhile_cons, hrest c rfl]
    simp

/-- What a text goes on with after a value: neither a blank nor part of a number. -/
def Stops (rest : List Char) : Prop := ∀ c ∈ rest.head?, isBlank c = false

lemma stops_cons (h : isBlank c = false) (rest : List Char) : Stops (c :: rest) := by
  intro d hd
  rw [List.head?_cons, Option.mem_some_iff] at hd
  rw [← hd, h]

lemma skip_blanks {ws rest : List Char} (hws : Blanks ws) (hrest : Stops rest) :
    skip (ws ++ rest) = rest := by
  rw [skip, List.dropWhile_append_of_pos hws]
  cases rest with
  | nil => rfl
  | cons c rest => rw [List.dropWhile_cons, hrest c rfl, if_neg (by decide)]

lemma not_number_of_isBlank (h : isBlank c = true) : isNumberChar c = false := by
  simp only [isBlank, Bool.or_eq_true, decide_eq_true_eq] at h
  rcases h with ((rfl | rfl) | rfl) | rfl <;> rfl

lemma ends_blanks {ws rest : List Char} (hws : Blanks ws) (hrest : Ends rest) :
    Ends (ws ++ rest) := by
  cases ws with
  | nil => exact hrest
  | cons c ws => exact ends_cons (not_number_of_isBlank (hws c List.mem_cons_self)) _

/-- What a value begins with. -/
lemma ValueText.head (h : ValueText cs v) : ∃ c t, cs = c :: t ∧ isBlank c = false ∧ c ≠ ']' := by
  cases h with
  | number hnumber _ =>
    obtain ⟨hne, hchars⟩ := hnumber.chars
    obtain ⟨c, t, rfl⟩ := List.exists_cons_of_ne_nil hne
    have hc := hchars c List.mem_cons_self
    refine ⟨c, t, rfl, ?_, ?_⟩
    · by_contra hblank
      rw [not_number_of_isBlank (by simpa using hblank)] at hc
      cases hc
    · rintro rfl
      cases hc
  | string hstring =>
    obtain ⟨body, -, rfl⟩ := hstring
    exact ⟨quote, _, rfl, by decide, by decide⟩
  | _ => exact ⟨_, _, rfl, by decide, by decide⟩

lemma ValueText.stops (h : ValueText cs v) (rest : List Char) : Stops (cs ++ rest) := by
  obtain ⟨c, t, rfl, hblank, -⟩ := h.head
  exact stops_cons hblank _

lemma StringText.stops {s : String} (h : StringText cs s) (rest : List Char) :
    Stops (cs ++ rest) := (ValueText.string h).stops rest

/-- The items begin with a value, after blanks. -/
lemma ItemsText.skip_eq {vs : List Json} (h : ItemsText cs vs) :
    ∃ c t, c ≠ ']' ∧ ∀ rest, skip (cs ++ rest) = c :: (t ++ rest) := by
  have hfirst : ∃ a c t, Blanks a ∧ isBlank c = false ∧ c ≠ ']' ∧ cs = a ++ c :: t := by
    cases h with
    | @one a cs b v ha hv _ =>
      obtain ⟨c, t, rfl, hblank, hc⟩ := hv.head
      exact ⟨a, c, t ++ b, ha, hblank, hc, rfl⟩
    | @more a cs b rest v vs ha hv _ _ =>
      obtain ⟨c, t, rfl, hblank, hc⟩ := hv.head
      exact ⟨a, c, t ++ (b ++ ',' :: rest), ha, hblank, hc, rfl⟩
  obtain ⟨a, c, t, ha, hblank, hc, rfl⟩ := hfirst
  refine ⟨c, t, hc, fun rest => ?_⟩
  rw [List.append_assoc, List.cons_append, skip_blanks ha (stops_cons hblank _)]

/-- The members begin with a key, after blanks. -/
lemma MembersText.skip_eq {ms : List (String × Json)} (h : MembersText cs ms) :
    ∃ t, ∀ rest, skip (cs ++ rest) = quote :: (t ++ rest) := by
  have hfirst : ∃ a t, Blanks a ∧ cs = a ++ quote :: t := by
    cases h with
    | @one a key b c cs d k v ha hkey _ _ _ _ =>
      obtain ⟨body, -, rfl⟩ := hkey
      exact ⟨a, _, ha, rfl⟩
    | @more a key b c cs d rest k v ms ha hkey _ _ _ _ _ =>
      obtain ⟨body, -, rfl⟩ := hkey
      exact ⟨a, _, ha, rfl⟩
  obtain ⟨a, t, ha, rfl⟩ := hfirst
  refine ⟨t, fun rest => ?_⟩
  rw [List.append_assoc, List.cons_append, skip_blanks ha (stops_cons (by decide) _)]

/-- A key, a colon and a value are read, with the blanks between and after them. -/
lemma parseMember_of_text {value : List Char → Option (Json × List Char)}
    {key b c d rest : List Char} {name : String} (hkey : StringText key name)
    (hb : Blanks b) (hc : Blanks c) (hd : Blanks d) (hcs : Stops (cs ++ (d ++ rest)))
    (hrest : Stops rest) (hv : value (cs ++ (d ++ rest)) = some (v, d ++ rest)) :
    parseMember value (key ++ (b ++ ':' :: (c ++ (cs ++ (d ++ rest)))))
      = some ((name, v), rest) := by
  obtain ⟨tail, rfl, hread⟩ := readBody_of_stringText hkey
    (b ++ ':' :: (c ++ (cs ++ (d ++ rest))))
  have hcolon : skip (b ++ ':' :: (c ++ (cs ++ (d ++ rest)))) = ':' :: (c ++ (cs ++ (d ++ rest))) :=
    skip_blanks hb (stops_cons (by decide) _)
  simp only [parseMember, List.cons_append, expect, if_pos, hread, Option.bind_some, hcolon,
    skip_blanks hc hcs, hv, Option.map_some, skip_blanks hd hrest, String.ofList_toList]

mutual

/-- A value is read off the front of a text that ends it. -/
lemma parseValue_of_valueText : ∀ {cs : List Char} {v : Json}, ValueText cs v →
    ∀ (k : ℕ) (rest : List Char), 2 * cs.length < k → Ends rest →
      parseValue k (cs ++ rest) = some (v, rest)
  | _, _, .null, k + 1, _, _, _ => by
    rw [parseValue.eq_def]
    rfl
  | _, _, .boolTrue, k + 1, _, _, _ => by
    rw [parseValue.eq_def]
    rfl
  | _, _, .boolFalse, k + 1, _, _, _ => by
    rw [parseValue.eq_def]
    rfl
  | cs, _, .number hnumber hn, k + 1, rest, _, hrest => by
    obtain ⟨hne, hchars⟩ := hnumber.chars
    obtain ⟨htake, hdrop⟩ := takeWhile_number hchars hrest
    obtain ⟨c, t, rfl⟩ := List.exists_cons_of_ne_nil hne
    have hc := hchars c List.mem_cons_self
    have hnot : ∀ d, isNumberChar d = false → c ≠ d := by
      rintro d hd rfl
      rw [hd] at hc
      cases hc
    rw [List.cons_append] at htake hdrop ⊢
    rw [parseValue.eq_def]
    dsimp only
    rw [if_neg (hnot _ rfl), if_neg (hnot _ rfl), if_neg (hnot _ rfl), if_neg (hnot _ rfl),
      if_neg (hnot _ rfl), if_neg (hnot _ rfl), htake, hdrop, hn, Option.map_some]
  | _, _, .string hstring, k + 1, rest, _, _ => by
    obtain ⟨tail, rfl, hread⟩ := readBody_of_stringText hstring rest
    rw [List.cons_append, parseValue.eq_def]
    dsimp only
    rw [if_pos rfl, hread, Option.map_some, String.ofList_toList]
  | _, _, .emptyArray hws, k + 1, rest, _, _ => by
    rw [List.cons_append, List.append_assoc, List.singleton_append, parseValue.eq_def]
    dsimp only
    rw [if_neg (by decide), if_pos rfl, skip_blanks hws (stops_cons (by decide) _)]
    rfl
  | _, _, .emptyObject hws, k + 1, rest, _, _ => by
    rw [List.cons_append, List.append_assoc, List.singleton_append, parseValue.eq_def]
    dsimp only
    rw [if_neg (by decide), if_neg (by decide), if_pos rfl,
      skip_blanks hws (stops_cons (by decide) _)]
    rfl
  | _, _, .array hitems, k + 1, rest, hk, _ => by
    rw [List.length_cons, List.length_append, List.length_singleton] at hk
    have hread := parseItems_of_itemsText hitems k rest (by omega)
    obtain ⟨c, t, hc, hskip⟩ := hitems.skip_eq
    rw [List.cons_append, List.append_assoc, List.singleton_append, parseValue.eq_def]
    dsimp only
    rw [hskip] at hread
    rw [if_neg (by decide), if_pos rfl, hskip]
    dsimp only
    rw [if_neg hc, hread, Option.map_some]
  | _, _, .object hmembers, k + 1, rest, hk, _ => by
    rw [List.length_cons, List.length_append, List.length_singleton] at hk
    have hread := parseMembers_of_membersText hmembers k rest (by omega)
    obtain ⟨t, hskip⟩ := hmembers.skip_eq
    rw [List.cons_append, List.append_assoc, List.singleton_append, parseValue.eq_def]
    dsimp only
    rw [hskip] at hread
    rw [if_neg (by decide), if_neg (by decide), if_pos rfl, hskip]
    dsimp only
    rw [if_neg (by decide), hread, Option.map_some]

lemma parseItems_of_itemsText : ∀ {cs : List Char} {vs : List Json}, ItemsText cs vs →
    ∀ (k : ℕ) (rest : List Char), 2 * cs.length + 1 < k →
      parseItems k (skip (cs ++ ']' :: rest)) = some (vs, rest)
  | _, _, .one ha hv hb, k + 1, rest, hk => by
    simp only [List.length_append] at hk
    have hread := parseValue_of_valueText hv k _ (by omega)
      (ends_blanks hb (ends_cons (c := ']') (by decide) rest))
    simp only [List.append_assoc]
    rw [skip_blanks ha (hv.stops _), parseItems, hread, Option.bind_some]
    dsimp only
    rw [skip_blanks hb (stops_cons (by decide) _)]
    rfl
  | _, _, @ItemsText.more _ _ _ more _ _ ha hv hb hitems, k + 1, rest, hk => by
    simp only [List.length_append, List.length_cons] at hk
    have hread := parseValue_of_valueText hv k _ (by omega)
      (ends_blanks hb (ends_cons (c := ',') (by decide) (more ++ ']' :: rest)))
    have hmore := parseItems_of_itemsText hitems k rest (by omega)
    simp only [List.append_assoc, List.cons_append]
    rw [skip_blanks ha (hv.stops _), parseItems, hread, Option.bind_some]
    dsimp only
    rw [skip_blanks hb (stops_cons (by decide) _)]
    change (parseItems k (skip (more ++ ']' :: rest))).map _ = _
    rw [hmore, Option.map_some]

lemma parseMembers_of_membersText : ∀ {cs : List Char} {ms : List (String × Json)},
    MembersText cs ms → ∀ (k : ℕ) (rest : List Char), 2 * cs.length + 1 < k →
      parseMembers k (skip (cs ++ closeBrace :: rest)) = some (ms, rest)
  | _, _, .one ha hkey hb hc hv hd, k + 1, rest, hk => by
    simp only [List.length_append, List.length_cons] at hk
    have hread := parseValue_of_valueText hv k _ (by omega)
      (ends_blanks hd (ends_cons (c := closeBrace) (by decide) rest))
    simp only [List.append_assoc, List.cons_append]
    rw [skip_blanks ha (hkey.stops _), parseMembers,
      parseMember_of_text hkey hb hc hd (hv.stops _) (stops_cons (by decide) _) hread]
    rfl
  | _, _, @MembersText.more _ _ _ _ _ _ more _ _ _ ha hkey hb hc hv hd hmembers, k + 1, rest,
    hk => by
      simp only [List.length_append, List.length_cons] at hk
      have hread := parseValue_of_valueText hv k _ (by omega)
        (ends_blanks hd (ends_cons (c := ',') (by decide) (more ++ closeBrace :: rest)))
      have hmore := parseMembers_of_membersText hmembers k rest (by omega)
      simp only [List.append_assoc, List.cons_append]
      rw [skip_blanks ha (hkey.stops _), parseMembers,
        parseMember_of_text hkey hb hc hd (hv.stops _) (stops_cons (by decide) _) hread,
        Option.bind_some]
      dsimp only
      rw [if_neg (by decide), if_pos rfl, hmore, Option.map_some]

end

/-- **Every text is read to the value it denotes.** -/
theorem parse_of_denotes (h : Denotes text v) : parse text = some v := by
  obtain ⟨a, cs, b, ha, hv, hb, rfl⟩ := h
  have hends : Ends b := by
    have hnil : Ends [] := fun c hc => by cases hc
    have hblanks := ends_blanks hb hnil
    rwa [List.append_nil] at hblanks
  have hskip : skip b = [] := by
    have hnil : Stops [] := fun c hc => by cases hc
    have hblanks := skip_blanks hb hnil
    rwa [List.append_nil] at hblanks
  rw [parse, skip_blanks ha (hv.stops b),
    parseValue_of_valueText hv _ b (by simp only [List.length_append]; omega) hends,
    Option.bind_some]
  dsimp only
  rw [hskip]
  rfl

/-! ### The compact text -/

lemma charText_escapeChar (c : Char) : CharText (escapeChar c) c := by
  unfold escapeChar
  split_ifs with hquote hbackslash hcontrol
  · subst hquote
    exact .letter rfl
  · subst hbackslash
    exact .letter rfl
  · have hlt := hcontrol
    rw [show c = Char.ofNat c.toNat from (Char.ofNat_toNat c).symm]
    generalize c.toNat = n at hlt
    interval_cases n <;> first | exact .letter rfl | exact .unit rfl (by decide) (by decide)
  · exact .plain (by omega) hquote hbackslash

lemma bodyText_flatMap (cs : List Char) : BodyText (cs.flatMap escapeChar) cs := by
  induction cs with
  | nil => exact .nil
  | cons c cs ih => exact .cons (charText_escapeChar c) ih

lemma stringText_writeString (s : String) : StringText (writeString s) s :=
  ⟨_, bodyText_flatMap s.toList, rfl⟩

/-- The digits of a positive number do not begin with a zero. -/
lemma decimalAux_head (k : ℕ) : ∀ (n : ℕ) (acc : List Char), 0 < n → n < 10 ^ (k + 1) →
    (decimalAux (k + 1) n acc).head? ≠ some '0' := by
  have hdigit : ∀ n < 10, 0 < n → Char.ofNat (48 + n % 10) ≠ '0' := by decide
  induction k with
  | zero =>
    intro n acc hpos hn
    rw [zero_add, pow_one] at hn
    rw [decimalAux, if_pos hn, List.head?_cons]
    exact fun h => hdigit n hn hpos (Option.some.inj h)
  | succ k ih =>
    intro n acc hpos hn
    rw [decimalAux]
    split_ifs with hlt
    · rw [List.head?_cons]
      exact fun h => hdigit n hlt hpos (Option.some.inj h)
    · refine ih (n / 10) _ (by omega) ?_
      rw [Nat.div_lt_iff_lt_mul (by omega), ← pow_succ]
      exact hn

lemma intText_decimal (n : ℕ) : IntText (decimal n) := by
  rcases Nat.eq_zero_or_pos n with rfl | hpos
  · exact .inl rfl
  · obtain ⟨hall, hne, -⟩ := decimal_spec n
    refine .inr ⟨⟨hne, List.all_eq_true.mp hall⟩, decimalAux_head n n [] hpos ?_⟩
    exact lt_trans (Nat.lt_pow_self (by omega)) (Nat.pow_lt_pow_right (by omega) (by omega))

lemma numberText_writeNumber {n : JsonNumber} (h : n.Literal) : NumberText (writeNumber n) := by
  cases n with
  | posInt n =>
    exact ⟨[], decimal n.toNat, [], [], .inl rfl, intText_decimal _, .inl rfl, .inl rfl,
      by simp [writeNumber]⟩
  | negInt n =>
    exact ⟨['-'], decimal n.toInt.natAbs, [], [], .inr rfl, intText_decimal _, .inl rfl,
      .inl rfl, by simp [writeNumber]⟩
  | float _ => exact h.1

lemma blanks_nil : Blanks [] := fun _ h => absurd h List.not_mem_nil

mutual

/-- The compact text of a value. -/
lemma valueText_write : ∀ v : Json, v.Literal → ValueText (write v) v
  | .null, _ => .null
  | .bool true, _ => .boolTrue
  | .bool false, _ => .boolFalse
  | .number _, h => .number (numberText_writeNumber h) (readNumber_writeNumber h)
  | .string s, _ => .string (stringText_writeString s)
  | .array [], _ => .emptyArray blanks_nil
  | .array (v :: vs), h => .array (itemsText_write (v :: vs) (List.cons_ne_nil v vs) h)
  | .object [], _ => .emptyObject blanks_nil
  | .object (m :: ms), h => .object (membersText_write (m :: ms) (List.cons_ne_nil m ms) h.2)

lemma itemsText_write : ∀ vs : List Json, vs ≠ [] → LiteralItems vs → ItemsText (writeItems vs) vs
  | [], hne, _ => absurd rfl hne
  | [v], _, h => .one blanks_nil (valueText_write v h.1) blanks_nil
  | v :: w :: vs, _, h =>
    .more blanks_nil (valueText_write v h.1) blanks_nil
      (itemsText_write (w :: vs) (List.cons_ne_nil w vs) h.2)

lemma membersText_write : ∀ ms : List (String × Json), ms ≠ [] → LiteralMembers ms →
    MembersText (writeMembers ms) ms
  | [], hne, _ => absurd rfl hne
  | [(k, v)], _, h =>
    .one blanks_nil (stringText_writeString k) blanks_nil blanks_nil (valueText_write v h.1)
      blanks_nil
  | (k, v) :: m :: ms, _, h =>
    .more blanks_nil (stringText_writeString k) blanks_nil blanks_nil (valueText_write v h.1)
      blanks_nil (membersText_write (m :: ms) (List.cons_ne_nil m ms) h.2)

end

/-- **The compact text of a value denotes it.** -/
theorem denotes_write (h : v.Literal) : Denotes (write v) v :=
  ⟨[], write v, [], blanks_nil, valueText_write v h, blanks_nil, (List.append_nil _).symm⟩

/-! ### Bytes -/

/-- The bytes of the compact text. -/
def toVec (v : Json) : List UInt8 := Utf8.encode (String.ofList (write v))

/-- The value of a text given as bytes. -/
def fromSlice (bytes : List UInt8) : Option Json :=
  (Utf8.decode bytes).bind fun text => parse text.toList

/-- **A written value is read back.** -/
theorem fromSlice_toVec (h : v.Literal) : fromSlice (toVec v) = some v := by
  rw [fromSlice, toVec, Utf8.decode_encode, Option.bind_some, String.toList_ofList]
  exact parse_of_denotes (denotes_write h)

end Json
