import MacpRuntime.Lib.JsonTree
import MacpRuntime.Http.Numbers
import Std.Data.ExtTreeMap

/-!
The strict JSON reader of a request (`src/http/json/decode.rs`), over the rest of the text: numbers
keep their text, a repeated key is an error, and the nesting is bounded.  `parseJsonWithin` is the
reader on a stack of so many frames, and `strict_reader`: **every text of a tree within the limits
is read to the tree**, every text that repeats a key is refused, and no text needs a deeper stack.
-/

open Std
open Json (isDecimal isBlank isNumberChar quote backslash openBrace closeBrace)
open Json (Blanks StringText NumberText BodyText CharText Ends Stops)
open Json (blanks_nil ends_blanks ends_cons stops_cons skip_blanks takeWhile_number readBody
  readBody_of_stringText)
open JsonTree (Written WrittenItems WrittenMembers Distinct DistinctItems DistinctMembers
  heightItems heightItems_cons_le heightMembers heightMembers_cons_le stops_of_stringText)

namespace MacpRuntime.Http

/-! ### Values -/

/-- A JSON number: its token, or a double whose text is gone. -/
inductive Num where
  | text (t : String)
  | float (f : Float)

/-- A parsed JSON value; an object holds the entries of a map, in the order of their keys. -/
inductive Json where
  | null
  | bool (b : Bool)
  | number (n : Num)
  | string (s : String)
  | array (items : List Json)
  | object (members : List (String × Json))

/-- A map of the members of an object. -/
abbrev Members : Type := ExtTreeMap String Json compare

mutual

/-- The value of a tree: the members of each object are put into a map, as they are written. -/
def Json.ofTree : JsonTree → Json
  | .null => .null
  | .bool b => .bool b
  | .number text => .number (.text text)
  | .string s => .string s
  | .array items => .array (ofItems items)
  | .object members => .object (ofMembers ∅ members).toList

/-- The items of an array. -/
def Json.ofItems : List JsonTree → List Json
  | [] => []
  | v :: vs => ofTree v :: ofItems vs

/-- The members of an object, onto earlier ones. -/
def Json.ofMembers : Members → List (String × JsonTree) → Members
  | obj, [] => obj
  | obj, (k, v) :: ms => ofMembers (obj.insert k (ofTree v)) ms

end

/-! ### The reader -/

/-- JSON text nests at most this deep. -/
def maxTextDepth : ℕ := 128

/-- Why no value is returned: the text is refused, or the stack the reader was given is used
up. -/
inductive Failure where
  | refused (reason : String)
  | exhausted

/-- What the reader takes from its libraries: `serde_json::from_str::<String>`, and the text of the
error of `str::from_utf8`. -/
structure Libraries where
  fromStr : String → Except String String
  utf8Error : List UInt8 → String

/-- The number of bytes of a text. -/
def byteLength (cs : List Char) : ℕ := (cs.map Char.utf8Size).sum

/-- An error at the cursor, in a text of `total` bytes of which `cs` is the rest. -/
def err {α : Type} (total : ℕ) (what : String) (cs : List Char) : Except Failure α :=
  .error (.refused s!"{what} at byte {total - byteLength cs}")

/-- Skip white space. -/
def ws (cs : List Char) : List Char := cs.dropWhile isBlank

/-- Read one character. -/
def expect (total : ℕ) (b : Char) (cs : List Char) : Except Failure (List Char) :=
  match ws cs with
  | c :: rest => if c = b then .ok rest else err total s!"expected '{b}'" (c :: rest)
  | [] => err total s!"expected '{b}'" []

/-- Read a word that stands for a value. -/
def literal (total : ℕ) (word : String) (v : Json) (cs : List Char) :
    Except Failure (Json × List Char) :=
  if word.toList.isPrefixOf cs then .ok (v, cs.drop word.toList.length)
  else err total "invalid literal" cs

/-- The characters up to and including the closing quote, and what follows; a backslash takes the
next character with it. -/
def closeString : List Char → Option (List Char × List Char)
  | [] => none
  | c :: cs =>
    if c = quote then some ([c], cs)
    else if c = backslash then
      match cs with
      | [] => none
      | d :: cs => (closeString cs).map fun r => (c :: d :: r.1, r.2)
    else (closeString cs).map fun r => (c :: r.1, r.2)

/-- A string: its extent is found, and its token is read by the library. -/
def string (lib : Libraries) (total : ℕ) (cs : List Char) : Except Failure (String × List Char) :=
  match cs with
  | [] => err total "expected a string" cs
  | c :: tail =>
    if c ≠ quote then err total "expected a string" cs
    else
      match closeString tail with
      | none => err total "unterminated string" cs
      | some (body, rest) =>
        match lib.fromStr (String.ofList (c :: body)) with
        | .error e => err total e cs
        | .ok s => .ok (s, rest)

/-- The members of an object after its brace, with a reader of values; the first argument bounds
their number. -/
def members (lib : Libraries) (total : ℕ)
    (value : List Char → Except Failure (Json × List Char)) :
    ℕ → Members → List Char → Except Failure (Json × List Char)
  | 0, _, _ => .error .exhausted
  | fuel + 1, obj, cs => do
    let keyAt := ws cs
    let (key, rest) ← string lib total keyAt
    let rest ← expect total ':' rest
    let (v, rest) ← value rest
    if obj.contains key then err total "duplicate object key" keyAt
    else
      let obj := obj.insert key v
      match ws rest with
      | ',' :: rest => members lib total value fuel obj rest
      | '\x7d' :: rest => .ok (.object obj.toList, rest)
      | rest => err total "expected ',' or '\x7d'" rest

/-- The items of an array after its bracket. -/
def items (total : ℕ) (value : List Char → Except Failure (Json × List Char)) :
    ℕ → List Json → List Char → Except Failure (Json × List Char)
  | 0, _, _ => .error .exhausted
  | fuel + 1, acc, cs => do
    let (v, rest) ← value cs
    let acc := acc ++ [v]
    match ws rest with
    | ',' :: rest => items total value fuel acc rest
    | ']' :: rest => .ok (.array acc, rest)
    | rest => err total "expected ',' or ']'" rest

/-- A number token. -/
def number (total : ℕ) (cs : List Char) : Except Failure (Json × List Char) :=
  let token := cs.takeWhile isNumberChar
  if isJsonNumber token then
    .ok (.number (.text (String.ofList token)), cs.dropWhile isNumberChar)
  else err total "invalid number" cs

/-- The value that begins at the cursor, with a reader of the values inside it. -/
def valueAt (lib : Libraries) (total : ℕ) (inner : List Char → Except Failure (Json × List Char)) :
    List Char → Except Failure (Json × List Char)
  | [] => err total "expected a JSON value" []
  | c :: rest =>
    if c = openBrace then
      match ws rest with
      | '\x7d' :: rest => .ok (.object [], rest)
      | cs => members lib total inner (rest.length + 1) ∅ cs
    else if c = '[' then
      match ws rest with
      | ']' :: rest => .ok (.array [], rest)
      | cs => items total inner (rest.length + 1) [] cs
    else if c = quote then do
      let (s, rest) ← string lib total (c :: rest)
      .ok (.string s, rest)
    else if c = 't' then literal total "true" (.bool true) (c :: rest)
    else if c = 'f' then literal total "false" (.bool false) (c :: rest)
    else if c = 'n' then literal total "null" .null (c :: rest)
    else if c = '-' || isDecimal c then number total (c :: rest)
    else err total "expected a JSON value" (c :: rest)

/-- A value at a depth, on a stack of so many frames. -/
def value (lib : Libraries) (total : ℕ) :
    ℕ → ℕ → List Char → Except Failure (Json × List Char)
  | 0, _, _ => .error .exhausted
  | stack + 1, depth, cs =>
    if maxTextDepth ≤ depth then err total "JSON nests too deeply" cs
    else valueAt lib total (value lib total stack (depth + 1)) (ws cs)

/-- `parse_json`, on a stack of so many frames. -/
def parseJsonWithin (lib : Libraries) (stack : ℕ) (bytes : List UInt8) : Except Failure Json :=
  match Utf8.decode bytes with
  | none => .error (.refused s!"not UTF-8: {lib.utf8Error bytes}")
  | some text => do
    let total := byteLength text.toList
    let (v, rest) ← value lib total stack 0 text.toList
    match ws rest with
    | [] => .ok v
    | rest => .error (.refused s!"trailing characters at byte {total - byteLength rest}")

/-- `parse_json`, on a stack with one frame a depth from zero to the limit. -/
def parseJson (lib : Libraries) (bytes : List UInt8) : Except Failure Json :=
  parseJsonWithin lib (maxTextDepth + 1) bytes

/-! ### The stack it needs -/

/-- The outcome of a reader that does not use up its stack; what it leaves is at most so long. -/
structure Settles {α : Type} (size : α → ℕ) (n : ℕ) (o : Except Failure α) : Prop where
  settled : o ≠ .error .exhausted
  size_le : ∀ a, o = .ok a → size a ≤ n

section Settles

variable {α β : Type} {size : α → ℕ} {size' : β → ℕ} {n : ℕ}

lemma settles_err (total : ℕ) (what : String) (cs : List Char) :
    Settles size n (err total what cs) :=
  ⟨fun h => (by cases h), fun _ h => (by cases h)⟩

lemma settles_ok {a : α} (h : size a ≤ n) : Settles size n (.ok a) :=
  ⟨fun h => (by cases h), fun b hb => by cases hb; exact h⟩

variable {o : Except Failure α}

lemma Settles.bind {f : α → Except Failure β} (h : Settles size n o)
    (hf : ∀ a, size a ≤ n → Settles size' n (f a)) : Settles size' n (o >>= f) := by
  cases o with
  | ok a => exact hf a (h.size_le a rfl)
  | error e =>
    refine ⟨fun he => h.settled ?_, fun a ha => by cases ha⟩
    cases he
    rfl

lemma Settles.mono {m : ℕ} (h : Settles size n o) (hle : n ≤ m) :
    Settles size m o := ⟨h.settled, fun a ha => (h.size_le a ha).trans hle⟩

end Settles

/-- The length of what a reader leaves. -/
def left {α : Type} (r : α × List Char) : ℕ := r.2.length

lemma length_ws (cs : List Char) : (ws cs).length ≤ cs.length := (List.dropWhile_suffix _).length_le

lemma closeString_length {cs : List Char} {r : List Char × List Char}
    (h : closeString cs = some r) : r.2.length ≤ cs.length := by
  fun_induction closeString cs generalizing r with
  | case1 => cases h
  | case2 =>
    cases h
    exact Nat.le_succ _
  | case3 => cases h
  | case4 c cs hq ih =>
    obtain ⟨t, ht, rfl⟩ := Option.map_eq_some_iff.mp h
    exact (ih ht).trans (by simp only [List.length_cons]; omega)
  | case5 c cs hq hb ih =>
    obtain ⟨t, ht, rfl⟩ := Option.map_eq_some_iff.mp h
    exact (ih ht).trans (Nat.le_succ _)

lemma settles_string (lib : Libraries) (total : ℕ) (cs : List Char) :
    Settles left cs.length (string lib total cs) := by
  unfold string
  split
  · exact settles_err _ _ _
  · rename_i c tail
    split_ifs
    · exact settles_err _ _ _
    · split
      · exact settles_err _ _ _
      · rename_i body rest hclose
        split
        · exact settles_err _ _ _
        · exact settles_ok ((closeString_length hclose).trans (Nat.le_succ _))

lemma settles_expect (total : ℕ) (b : Char) (cs : List Char) :
    Settles List.length cs.length (expect total b cs) := by
  have hws := length_ws cs
  unfold expect
  split
  · rename_i c rest heq
    rw [heq] at hws
    split_ifs
    · exact settles_ok ((Nat.le_succ _).trans hws)
    · exact settles_err _ _ _
  · exact settles_err _ _ _

lemma settles_literal (total : ℕ) (word : String) (v : Json) (cs : List Char) :
    Settles left cs.length (literal total word v cs) := by
  unfold literal
  split_ifs
  · exact settles_ok (List.drop_suffix _ _).length_le
  · exact settles_err _ _ _

lemma settles_number (total : ℕ) (cs : List Char) : Settles left cs.length (number total cs) := by
  unfold number
  dsimp only
  split_ifs
  · exact settles_ok (List.dropWhile_suffix _).length_le
  · exact settles_err _ _ _

section Inner

variable {lib : Libraries} {total : ℕ} {inner : List Char → Except Failure (Json × List Char)}
  (hinner : ∀ cs, Settles left cs.length (inner cs))

include hinner

lemma settles_members (fuel : ℕ) (obj : Members) {cs : List Char} (hfuel : cs.length < fuel) :
    Settles left cs.length (members lib total inner fuel obj cs) := by
  induction fuel generalizing obj cs with
  | zero => omega
  | succ fuel ih =>
    rw [members]
    refine ((settles_string lib total (ws cs)).mono (length_ws cs)).bind ?_
    rintro ⟨key, rest⟩ hrest
    refine ((settles_expect total ':' rest).mono hrest).bind fun rest hrest => ?_
    refine ((hinner rest).mono hrest).bind ?_
    rintro ⟨v, rest⟩ hrest
    have hws := (length_ws rest).trans hrest
    dsimp only
    split_ifs
    · exact settles_err _ _ _
    · split
      · rename_i rest heq
        rw [heq, List.length_cons] at hws
        exact (ih _ (by omega)).mono (by omega)
      · rename_i rest heq
        rw [heq, List.length_cons] at hws
        exact settles_ok (show rest.length ≤ _ by omega)
      · exact settles_err _ _ _

lemma settles_items (fuel : ℕ) (acc : List Json) {cs : List Char} (hfuel : cs.length < fuel) :
    Settles left cs.length (items total inner fuel acc cs) := by
  induction fuel generalizing acc cs with
  | zero => omega
  | succ fuel ih =>
    rw [items]
    refine (hinner cs).bind ?_
    rintro ⟨v, rest⟩ hrest
    have hws := (length_ws rest).trans hrest
    dsimp only
    split
    · rename_i rest heq
      rw [heq, List.length_cons] at hws
      exact (ih _ (by omega)).mono (by omega)
    · rename_i rest heq
      rw [heq, List.length_cons] at hws
      exact settles_ok (show rest.length ≤ _ by omega)
    · exact settles_err _ _ _

lemma settles_valueAt (cs : List Char) : Settles left cs.length (valueAt lib total inner cs) := by
  cases cs with
  | nil => exact settles_err _ _ _
  | cons c rest =>
    have hws := length_ws rest
    rw [valueAt]
    split_ifs
    · split
      · rename_i rest' heq
        rw [heq, List.length_cons] at hws
        exact settles_ok (show rest'.length ≤ _ by rw [List.length_cons]; omega)
      · exact (settles_members hinner _ _ (by omega)).mono (by rw [List.length_cons]; omega)
    · split
      · rename_i rest' heq
        rw [heq, List.length_cons] at hws
        exact settles_ok (show rest'.length ≤ _ by rw [List.length_cons]; omega)
      · exact (settles_items hinner _ _ (by omega)).mono (by rw [List.length_cons]; omega)
    · exact (settles_string _ _ _).bind fun r hr => settles_ok hr
    · exact settles_literal _ _ _ _
    · exact settles_literal _ _ _ _
    · exact settles_literal _ _ _ _
    · exact settles_number _ _
    · exact settles_err _ _ _

end Inner

/-- **A value is read on a stack with one frame a depth**, from its own up to the limit. -/
lemma settles_value (lib : Libraries) (total : ℕ) {stack depth : ℕ}
    (hstack : maxTextDepth < stack + depth) (hdepth : depth ≤ maxTextDepth) (cs : List Char) :
    Settles left cs.length (value lib total stack depth cs) := by
  induction stack generalizing depth cs with
  | zero => omega
  | succ stack ih =>
    rw [value]
    split_ifs with hdeep
    · exact settles_err _ _ _
    · exact (settles_valueAt (fun cs => ih (by omega) (by omega) cs) _).mono (length_ws cs)

/-- A deeper stack makes no difference. -/
lemma value_stack (lib : Libraries) (total : ℕ) {stack stack' depth : ℕ}
    (hstack : maxTextDepth < stack + depth) (hstack' : maxTextDepth < stack' + depth)
    (hdepth : depth ≤ maxTextDepth) :
    value lib total stack depth = value lib total stack' depth := by
  induction stack generalizing stack' depth with
  | zero => omega
  | succ stack ih =>
    obtain ⟨stack', rfl⟩ := Nat.exists_eq_succ_of_ne_zero (show stack' ≠ 0 by omega)
    funext cs
    rw [value, value]
    split_ifs with hdeep
    · rfl
    · rw [ih (by omega) (show maxTextDepth < stack' + (depth + 1) by omega) (by omega)]

/-! ### Texts of trees -/

/-- The library reads every string literal. -/
def Libraries.ReadsStrings (lib : Libraries) : Prop :=
  ∀ cs s, StringText cs s → lib.fromStr (String.ofList cs) = .ok s

/-- The errors a text is refused with. -/
def Failure.IsRefusal (e : Failure) : Prop := e ≠ .exhausted

lemma scan_err {α : Type} {good : Prop} (hbad : ¬ good) (a : α) (total : ℕ) (what : String)
    (cs : List Char) : Scan Failure.IsRefusal good a (err total what cs) :=
  .of_error (fun h => by cases h) hbad a

variable {c : Char}

/-- What is neither a quote nor a backslash is passed over. -/
lemma closeString_cons (hq : c ≠ quote) (hb : c ≠ backslash) (cs : List Char) :
    closeString (c :: cs) = (closeString cs).map fun r => (c :: r.1, r.2) := by
  rw [closeString.eq_def]
  dsimp only
  rw [if_neg hq, if_neg hb]

lemma closeString_escape (d : Char) (cs : List Char) :
    closeString (backslash :: d :: cs)
      = (closeString cs).map fun r => (backslash :: d :: r.1, r.2) := by
  rw [closeString.eq_def]
  dsimp only
  rw [if_neg (by decide), if_pos rfl]

lemma ne_of_hexDigit? {n : ℕ} (h : Json.hexDigit? c = some n) : c ≠ quote ∧ c ≠ backslash := by
  constructor <;> (rintro rfl; cases h)

/-- The four digits of a code unit are passed over. -/
lemma closeString_unit {x₁ x₂ x₃ x₄ : Char} {n : ℕ} (h : Json.unit? x₁ x₂ x₃ x₄ = some n)
    (cs : List Char) :
    closeString (x₁ :: x₂ :: x₃ :: x₄ :: cs)
      = (closeString cs).map fun r => (x₁ :: x₂ :: x₃ :: x₄ :: r.1, r.2) := by
  simp only [Json.unit?, Option.bind_eq_bind, Option.bind_eq_some_iff] at h
  obtain ⟨n₁, h₁, n₂, h₂, n₃, h₃, n₄, h₄, -⟩ := h
  rw [closeString_cons (ne_of_hexDigit? h₁).1 (ne_of_hexDigit? h₁).2,
    closeString_cons (ne_of_hexDigit? h₂).1 (ne_of_hexDigit? h₂).2,
    closeString_cons (ne_of_hexDigit? h₃).1 (ne_of_hexDigit? h₃).2,
    closeString_cons (ne_of_hexDigit? h₄).1 (ne_of_hexDigit? h₄).2]
  simp only [Option.map_map]
  rfl

/-- One character is passed over, however it is spelled. -/
lemma closeString_char {text : List Char} (h : CharText text c) (cs : List Char) :
    closeString (text ++ cs) = (closeString cs).map fun r => (text ++ r.1, r.2) := by
  cases h with
  | plain _ hq hb => exact closeString_cons hq hb cs
  | letter _ => exact closeString_escape _ cs
  | unit hunit _ _ =>
    simp only [List.cons_append, List.nil_append]
    rw [closeString_escape, closeString_unit hunit, Option.map_map]
    rfl
  | pair hhi hlo _ _ =>
    simp only [List.cons_append, List.nil_append]
    rw [closeString_escape, closeString_unit hhi, closeString_escape, closeString_unit hlo]
    simp only [Option.map_map]
    rfl

/-- **The extent of a string is found**, whatever escapes it has. -/
lemma closeString_body {body chars : List Char} (h : BodyText body chars) (rest : List Char) :
    closeString (body ++ quote :: rest) = some (body ++ [quote], rest) := by
  induction h with
  | nil =>
    rw [List.nil_append, closeString.eq_def]
    rfl
  | cons hchar _ ih => rw [List.append_assoc, closeString_char hchar, ih, Option.map_some,
      List.append_assoc]

lemma ws_blanks {a rest : List Char} (ha : Blanks a) (hrest : Stops rest) : ws (a ++ rest) = rest :=
  skip_blanks ha hrest

lemma expect_of_text (total : ℕ) {b : Char} (hb : isBlank b = false) {a : List Char}
    (ha : Blanks a) (rest : List Char) : expect total b (a ++ b :: rest) = .ok rest := by
  rw [expect, ws_blanks ha (stops_cons hb rest)]
  dsimp only
  rw [if_pos rfl]

/-- A number begins with a minus sign or a digit. -/
lemma numberText_head {cs : List Char} (h : NumberText cs) :
    ∃ c t, cs = c :: t ∧ (c = '-' ∨ isDecimal c = true) := by
  obtain ⟨sign, int, fraction, exponent, hsign, hint, -, -, rfl⟩ := h
  obtain ⟨d, ds, rfl, hd⟩ := intText_head hint
  rcases hsign with rfl | rfl
  · exact ⟨d, _, rfl, .inr hd⟩
  · exact ⟨'-', _, rfl, .inl rfl⟩

/-- What begins like a number is read as one. -/
lemma valueAt_number (lib : Libraries) (total : ℕ)
    (inner : List Char → Except Failure (Json × List Char)) {t : List Char}
    (h : c = '-' ∨ isDecimal c = true) :
    valueAt lib total inner (c :: t) = number total (c :: t) := by
  have hne : ∀ d, isDecimal d = false → d ≠ '-' → c ≠ d := by
    rintro d hd hminus rfl
    rcases h with h | h
    · exact hminus h
    · rw [hd] at h
      cases h
  rw [valueAt, if_neg (hne _ (by decide) (by decide)), if_neg (hne _ (by decide) (by decide)),
    if_neg (hne _ (by decide) (by decide)), if_neg (hne _ (by decide) (by decide)),
    if_neg (hne _ (by decide) (by decide)), if_neg (hne _ (by decide) (by decide)), if_pos]
  rcases h with rfl | h
  · rfl
  · rw [h, Bool.or_true]

lemma number_of_text (total : ℕ) {text : String} (h : NumberText text.toList) {rest : List Char}
    (hrest : Ends rest) :
    number total (text.toList ++ rest) = .ok (.number (.text text), rest) := by
  obtain ⟨htake, hdrop⟩ := takeWhile_number h.chars.2 hrest
  rw [number, htake, hdrop, if_pos ((isJsonNumber_iff _).mpr h), String.ofList_toList]

section Read

variable {lib : Libraries} (total : ℕ)

lemma string_of_text (hlib : lib.ReadsStrings) {cs : List Char} {s : String} (h : StringText cs s)
    (rest : List Char) :
    string lib total (cs ++ rest) = .ok (s, rest) := by
  have hread := hlib cs s h
  obtain ⟨body, hbody, rfl⟩ := h
  rw [List.cons_append, List.append_assoc, List.singleton_append, string.eq_def]
  dsimp only
  rw [if_neg (by simp), closeString_body hbody]
  dsimp only
  rw [hread]

variable {depth : ℕ} {rest : List Char} {v : JsonTree}
  {inner : List Char → Except Failure (Json × List Char)}

/-- A value below the limit is read at the cursor; one at the limit is refused. -/
lemma scan_value {cs a : List Char} {r : Json × List Char} (hv : Written cs v)
    {stack : ℕ} (hstack : maxTextDepth < stack + depth) (hdepth : depth ≤ maxTextDepth)
    (ha : Blanks a)
    (h : ∀ k, maxTextDepth < k + (depth + 1) → depth < maxTextDepth →
      Scan Failure.IsRefusal (v.height + depth ≤ maxTextDepth ∧ v.Distinct) r
        (valueAt lib total (value lib total k (depth + 1)) (cs ++ rest))) :
    Scan Failure.IsRefusal (v.height + depth ≤ maxTextDepth ∧ v.Distinct) r
      (value lib total stack depth (a ++ (cs ++ rest))) := by
  obtain ⟨k, rfl⟩ := Nat.exists_eq_succ_of_ne_zero (show stack ≠ 0 by omega)
  have hpos := v.height_pos
  rw [value]
  split_ifs with hdeep
  · exact scan_err (by omega) _ _ _ _
  · rw [ws_blanks ha (hv.stops rest)]
    exact h k (by omega) (by omega)

/-- A value that holds no other is read below the limit. -/
lemma scan_leaf (hheight : v.height = 1) (hdistinct : v.Distinct) (hlt : depth < maxTextDepth)
    (r : Json × List Char) :
    Scan Failure.IsRefusal (v.height + depth ≤ maxTextDepth ∧ v.Distinct) r (.ok r) :=
  (Scan.of_ok r).congr (iff_of_true trivial ⟨by omega, hdistinct⟩)

lemma valueAt_array {c : Char} {t : List Char} (hc : c ≠ ']') (h : ws rest = c :: t) :
    valueAt lib total inner ('[' :: rest) = items total inner (rest.length + 1) [] (ws rest) := by
  rw [valueAt, if_neg (by decide), if_pos rfl]
  split
  · rename_i heq
    rw [h] at heq
    exact absurd (List.cons.inj heq).1 hc
  · rfl

lemma valueAt_object {t : List Char} (h : ws rest = quote :: t) :
    valueAt lib total inner (openBrace :: rest)
      = members lib total inner (rest.length + 1) ∅ (ws rest) := by
  rw [valueAt, if_pos rfl]
  split
  · rename_i heq
    rw [h] at heq
    exact absurd (List.cons.inj heq).1 (by decide)
  · rfl

/-- Blanks before a member are passed over. -/
lemma members_ws (inner : List Char → Except Failure (Json × List Char)) (fuel : ℕ) (obj : Members)
    (cs : List Char) :
    members lib total inner fuel obj (ws cs) = members lib total inner fuel obj cs := by
  cases fuel with
  | zero => rfl
  | succ fuel => rw [members, members, ws, ws, List.dropWhile_idempotent]

/-- The members of an object are new and within the limit when the first is, and the others still
are after it. -/
lemma new_members_cons {obj : Members} {k : String} {w : Json} {ms : List (String × JsonTree)} :
    (heightMembers ((k, v) :: ms) + depth ≤ maxTextDepth
        ∧ DistinctMembers ((k, v) :: ms) ∧ (((k, v) :: ms).map Prod.fst).Nodup
        ∧ ∀ k' ∈ ((k, v) :: ms).map Prod.fst, obj.contains k' = false)
      ↔ (v.height + depth ≤ maxTextDepth ∧ v.Distinct) ∧ obj.contains k = false
        ∧ heightMembers ms + depth ≤ maxTextDepth ∧ DistinctMembers ms
        ∧ (ms.map Prod.fst).Nodup
        ∧ ∀ k' ∈ ms.map Prod.fst, (obj.insert k w).contains k' = false := by
  have hinsert (k' : String) :
      (obj.insert k w).contains k' = false ↔ k ≠ k' ∧ obj.contains k' = false := by
    rw [ExtTreeMap.contains_insert, Bool.or_eq_false_iff]
    simp
  simp only [heightMembers_cons_le, DistinctMembers, List.map_cons,
    List.nodup_cons, List.forall_mem_cons, hinsert]
  have hsplit : (∀ k' ∈ ms.map Prod.fst, k ≠ k' ∧ obj.contains k' = false)
      ↔ k ∉ ms.map Prod.fst ∧ ∀ k' ∈ ms.map Prod.fst, obj.contains k' = false := by
    constructor
    · exact fun h => ⟨fun hk => (h k hk).1 rfl, fun k' hk' => (h k' hk').2⟩
    · rintro ⟨hk, h⟩ k' hk'
      exact ⟨fun heq => hk (heq ▸ hk'), h k' hk'⟩
  rw [hsplit]
  tauto

mutual

/-- **A text of a value is read to the value**, when it nests within the limit and repeats no key,
and is refused otherwise. -/
lemma value_of_written (hlib : lib.ReadsStrings) : ∀ {cs : List Char} {v : JsonTree}, Written cs v →
    ∀ {stack depth : ℕ} {a rest : List Char}, maxTextDepth < stack + depth →
      depth ≤ maxTextDepth → Blanks a → Ends rest →
      Scan Failure.IsRefusal (v.height + depth ≤ maxTextDepth ∧ v.Distinct) (Json.ofTree v, rest)
        (value lib total stack depth (a ++ (cs ++ rest)))
  | _, _, .null, _, _, _, _, hstack, hdepth, ha, _ => by
    refine scan_value total .null hstack hdepth ha fun k _ hlt => ?_
    exact scan_leaf (by rfl) (by exact trivial) hlt _
  | _, _, .boolTrue, _, _, _, _, hstack, hdepth, ha, _ => by
    refine scan_value total .boolTrue hstack hdepth ha fun k _ hlt => ?_
    exact scan_leaf (by rfl) (by exact trivial) hlt _
  | _, _, .boolFalse, _, _, _, _, hstack, hdepth, ha, _ => by
    refine scan_value total .boolFalse hstack hdepth ha fun k _ hlt => ?_
    exact scan_leaf (by rfl) (by exact trivial) hlt _
  | _, _, .number hnumber, _, _, _, rest, hstack, hdepth, ha, hrest => by
    refine scan_value total (.number hnumber) hstack hdepth ha fun k _ hlt => ?_
    have hread := number_of_text total hnumber hrest
    obtain ⟨c, t, ht, hc⟩ := numberText_head hnumber
    rw [ht, List.cons_append] at hread ⊢
    rw [valueAt_number _ _ _ hc, hread]
    exact scan_leaf (by rfl) (by exact trivial) hlt _
  | _, _, .string hstring, _, _, _, rest, hstack, hdepth, ha, _ => by
    refine scan_value total (.string hstring) hstack hdepth ha fun k _ hlt => ?_
    have hread := string_of_text total hlib hstring rest
    obtain ⟨body, -, rfl⟩ := hstring
    rw [List.cons_append] at hread ⊢
    rw [valueAt, if_neg (by decide), if_neg (by decide), if_pos rfl, hread]
    exact scan_leaf (by rfl) (by exact trivial) hlt _
  | _, _, .emptyArray hws, _, _, _, rest, hstack, hdepth, ha, _ => by
    refine scan_value total (.emptyArray hws) hstack hdepth ha fun k _ hlt => ?_
    rw [List.cons_append, List.append_assoc, List.singleton_append, valueAt,
      if_neg (by decide), if_pos rfl, ws_blanks hws (stops_cons (by decide) _)]
    exact scan_leaf (by rfl) (by exact trivial) hlt _
  | _, _, .emptyObject hws, _, _, _, rest, hstack, hdepth, ha, _ => by
    refine scan_value total (.emptyObject hws) hstack hdepth ha fun k _ hlt => ?_
    rw [List.cons_append, List.append_assoc, List.singleton_append, valueAt, if_pos rfl,
      ws_blanks hws (stops_cons (by decide) _)]
    exact scan_leaf (by rfl) (by exact ⟨List.nodup_nil, trivial⟩) hlt _
  | _, _, @Written.array cs vs hitems, _, _, _, rest, hstack, hdepth, ha, _ => by
    refine scan_value total (.array hitems) hstack hdepth ha fun k hk hlt => ?_
    obtain ⟨c, t, hc, hskip⟩ := hitems.skip_eq (']' :: rest)
    rw [List.cons_append, List.append_assoc, List.singleton_append, valueAt_array total hc hskip]
    have hfuel : cs.length < (cs ++ ']' :: rest).length + 1 := by
      rw [List.length_append]
      omega
    have hread : Scan Failure.IsRefusal _ (Json.array ([] ++ Json.ofItems vs), rest)
        (items total (value lib total k _) _ [] (ws (cs ++ ']' :: rest))) :=
      items_of_written hlib hitems hk hlt hfuel (.inr rfl)
    refine hread.congr ?_
    rw [JsonTree.height, Distinct, add_right_comm, add_assoc]
  | _, _, @Written.object cs ms hmembers, _, _, _, rest, hstack, hdepth, ha, _ => by
    refine scan_value total (.object hmembers) hstack hdepth ha fun k hk hlt => ?_
    obtain ⟨t, hskip⟩ := hmembers.skip_eq (closeBrace :: rest)
    rw [List.cons_append, List.append_assoc, List.singleton_append, valueAt_object total hskip,
      members_ws]
    have hfuel : cs.length < (cs ++ closeBrace :: rest).length + 1 := by
      rw [List.length_append]
      omega
    refine (members_of_written hlib hmembers hk hlt hfuel).congr ?_
    have hnew : ∀ k ∈ ms.map Prod.fst, (∅ : Members).contains k = false :=
      fun _ _ => ExtTreeMap.contains_empty
    rw [JsonTree.height, Distinct, add_right_comm, add_assoc]
    tauto

lemma items_of_written (hlib : lib.ReadsStrings) :
    ∀ {cs : List Char} {vs : List JsonTree}, WrittenItems cs vs →
    ∀ {stack depth fuel : ℕ} {acc : List Json} {text rest : List Char},
      maxTextDepth < stack + depth → depth ≤ maxTextDepth → cs.length < fuel →
      text = cs ++ ']' :: rest ∨ text = ws (cs ++ ']' :: rest) →
      Scan Failure.IsRefusal
        (heightItems vs + depth ≤ maxTextDepth ∧ DistinctItems vs)
        (Json.array (acc ++ Json.ofItems vs), rest)
        (items total (value lib total stack depth) fuel acc text)
  | _, _, @WrittenItems.one a cs b v ha hv hb, stack, depth, fuel + 1, acc, text, rest, hstack,
    hdepth, hfuel, htext => by
      obtain ⟨a', ha', rfl⟩ : ∃ a', Blanks a' ∧ text = a' ++ (cs ++ (b ++ ']' :: rest)) := by
        simp only [List.append_assoc] at htext
        rcases htext with rfl | rfl
        · exact ⟨a, ha, rfl⟩
        · exact ⟨[], blanks_nil, ws_blanks ha (hv.stops _)⟩
      have hends := ends_blanks hb (ends_cons (c := ']') (by decide) rest)
      rw [items]
      refine (value_of_written hlib hv hstack hdepth ha' hends).bind True (fun _ => ?_) ?_
      · dsimp only
        rw [ws_blanks hb (stops_cons (by decide) _)]
        exact Scan.of_ok _
      · rw [heightItems_cons_le, DistinctItems]
        have hnil : heightItems [] + depth ≤ maxTextDepth := by
          rwa [heightItems, zero_add]
        have hnone : DistinctItems [] := trivial
        tauto
  | _, _, @WrittenItems.more a cs b more v vs ha hv hb hmore, stack, depth, fuel + 1, acc, text,
    rest, hstack, hdepth, hfuel, htext => by
      obtain ⟨a', ha', rfl⟩ : ∃ a', Blanks a'
          ∧ text = a' ++ (cs ++ (b ++ ',' :: (more ++ ']' :: rest))) := by
        simp only [List.append_assoc, List.cons_append] at htext
        rcases htext with rfl | rfl
        · exact ⟨a, ha, rfl⟩
        · exact ⟨[], blanks_nil, ws_blanks ha (hv.stops _)⟩
      have hends := ends_blanks hb (ends_cons (c := ',') (by decide) (more ++ ']' :: rest))
      simp only [List.length_append, List.length_cons] at hfuel
      have hread : Scan Failure.IsRefusal _
          (Json.array (acc ++ [Json.ofTree v] ++ Json.ofItems vs), rest)
          (items total (value lib total stack depth) fuel _ (more ++ ']' :: rest)) :=
        items_of_written hlib hmore hstack hdepth (by omega) (.inl rfl)
      rw [List.append_assoc, List.singleton_append] at hread
      rw [items]
      refine (value_of_written hlib hv hstack hdepth ha' hends).bind
        (heightItems vs + depth ≤ maxTextDepth ∧ DistinctItems vs)
        (fun _ => ?_) ?_
      · dsimp only
        rw [ws_blanks hb (stops_cons (by decide) _)]
        exact hread
      · rw [heightItems_cons_le, DistinctItems]
        tauto

lemma members_of_written (hlib : lib.ReadsStrings) :
    ∀ {cs : List Char} {ms : List (String × JsonTree)}, WrittenMembers cs ms →
    ∀ {stack depth fuel : ℕ} {obj : Members} {rest : List Char},
      maxTextDepth < stack + depth → depth ≤ maxTextDepth → cs.length < fuel →
      Scan Failure.IsRefusal
        (heightMembers ms + depth ≤ maxTextDepth ∧ DistinctMembers ms
          ∧ (ms.map Prod.fst).Nodup ∧ ∀ k ∈ ms.map Prod.fst, obj.contains k = false)
        (Json.object (Json.ofMembers obj ms).toList, rest)
        (members lib total (value lib total stack depth) fuel obj (cs ++ closeBrace :: rest))
  | _, _, @WrittenMembers.one a key b c cs d k v ha hkey hb hc hv hd, stack, depth, fuel + 1, obj,
    rest, hstack, hdepth, hfuel => by
      have hends := ends_blanks hd (ends_cons (c := closeBrace) (by decide) rest)
      simp only [List.append_assoc, List.cons_append]
      rw [members, ws_blanks ha (stops_of_stringText hkey _)]
      dsimp only
      rw [string_of_text total hlib hkey, Except.ok_bind]
      dsimp only
      rw [expect_of_text total (by decide) hb, Except.ok_bind]
      refine (value_of_written hlib hv hstack hdepth hc hends).bind _ (fun _ => ?_)
        (new_members_cons (w := Json.ofTree v))
      dsimp only
      split_ifs with hdup
      · exact scan_err (by simp [hdup]) _ _ _ _
      · rw [ws_blanks hd (stops_cons (by decide) _)]
        refine (Scan.of_ok _).congr (iff_of_true trivial ⟨Bool.eq_false_of_not_eq_true hdup, ?_⟩)
        exact ⟨by rwa [heightMembers, zero_add], trivial, List.nodup_nil, by simp⟩
  | _, _, @WrittenMembers.more a key b c cs d more k v ms ha hkey hb hc hv hd hmore, stack, depth,
    fuel + 1, obj, rest, hstack, hdepth, hfuel => by
      have hends := ends_blanks hd
        (ends_cons (c := ',') (by decide) (more ++ closeBrace :: rest))
      simp only [List.length_append, List.length_cons] at hfuel
      have hread : Scan Failure.IsRefusal _ (Json.object (Json.ofMembers _ ms).toList, rest)
          (members lib total (value lib total stack depth) fuel (obj.insert k (Json.ofTree v)) _) :=
        members_of_written hlib hmore hstack hdepth (by omega)
      simp only [List.append_assoc, List.cons_append]
      rw [members, ws_blanks ha (stops_of_stringText hkey _)]
      dsimp only
      rw [string_of_text total hlib hkey, Except.ok_bind]
      dsimp only
      rw [expect_of_text total (by decide) hb, Except.ok_bind]
      refine (value_of_written hlib hv hstack hdepth hc hends).bind _ (fun _ => ?_)
        (new_members_cons (w := Json.ofTree v))
      dsimp only
      split_ifs with hdup
      · exact scan_err (by simp [hdup]) _ _ _ _
      · rw [ws_blanks hd (stops_cons (by decide) _)]
        exact hread.congr (and_iff_right (Bool.eq_false_of_not_eq_true hdup)).symm

end

/-- A whole text is read to its value when it is within the limit and repeats no key, and is refused
otherwise. -/
lemma parseJson_of_text (hlib : lib.ReadsStrings) {text : String}
    (h : JsonTree.Text text.toList v) :
    Scan Failure.IsRefusal (v.height ≤ maxTextDepth ∧ v.Distinct) (Json.ofTree v)
      (parseJson lib (Utf8.encode text)) := by
  obtain ⟨a, cs, b, ha, hv, hb, htext⟩ := h
  have hends : Ends b := by
    have hblanks : Ends (b ++ []) := ends_blanks hb fun c hc => by cases hc
    rwa [List.append_nil] at hblanks
  have hws : ws b = [] := by
    have hblanks : ws (b ++ []) = [] := ws_blanks hb fun c hc => by cases hc
    rwa [List.append_nil] at hblanks
  rw [parseJson, parseJsonWithin, Utf8.decode_encode]
  dsimp only
  rw [htext]
  refine (value_of_written _ hlib hv (by omega) (Nat.zero_le _) ha hends).bind True (fun _ => ?_) ?_
  · dsimp only
    rw [hws]
    exact .of_ok _
  · rw [and_true, add_zero]

end Read

/-- **No text uses up a stack with one frame a depth**, and a deeper stack makes no difference. -/
lemma parseJson_settled (lib : Libraries) (bytes : List UInt8) :
    parseJson lib bytes ≠ .error .exhausted
      ∧ ∀ stack, maxTextDepth < stack → parseJsonWithin lib stack bytes = parseJson lib bytes := by
  constructor
  · rw [parseJson, parseJsonWithin]
    split
    · exact fun h => by cases h
    · rename_i text _
      refine (?_ : Settles (fun _ => 0) text.toList.length _).settled
      refine (settles_value lib _ (by omega) (Nat.zero_le _) _).bind ?_
      rintro ⟨v, rest⟩ -
      dsimp only
      split
      · exact settles_ok (Nat.zero_le _)
      · exact ⟨fun h => (by cases h), fun _ h => (by cases h)⟩
  · intro stack hstack
    rw [parseJson, parseJsonWithin, parseJsonWithin]
    split
    · rfl
    · rename_i text _
      have hvalue : value lib (byteLength text.toList) stack 0
          = value lib (byteLength text.toList) (maxTextDepth + 1) 0 :=
        value_stack lib _ (by omega) (by omega) (Nat.zero_le _)
      dsimp only
      rw [hvalue]

/-- **The strict reader.**  Every text of a tree whose values sit below the limit and whose objects
repeat no key is read to the tree, with the texts of its numbers; every text of a tree in which
some object repeats a key, however it is spelled, is refused; and on no input does the reader
go deeper than the limit: one frame a depth is all the stack it uses. -/
theorem strict_reader {lib : Libraries} (hlib : lib.ReadsStrings) :
    (∀ (text : String) (v : JsonTree), JsonTree.Text text.toList v → v.height ≤ maxTextDepth →
        v.Distinct → parseJson lib (Utf8.encode text) = .ok (Json.ofTree v))
      ∧ (∀ (text : String) (v : JsonTree), JsonTree.Text text.toList v → ¬ v.Distinct →
          ∃ reason, parseJson lib (Utf8.encode text) = .error (.refused reason))
      ∧ ∀ bytes, parseJson lib bytes ≠ .error .exhausted
          ∧ ∀ stack, maxTextDepth < stack →
              parseJsonWithin lib stack bytes = parseJson lib bytes := by
  refine ⟨fun text v htext hheight hdistinct => ?_, fun text v htext hrepeats => ?_,
    parseJson_settled lib⟩
  · exact (parseJson_of_text hlib htext).ok ⟨hheight, hdistinct⟩
  · obtain ⟨e, he, herror⟩ := (parseJson_of_text hlib htext).error fun h => hrepeats h.2
    cases e with
    | refused reason => exact ⟨reason, herror⟩
    | exhausted => exact absurd rfl he

/-- A string reader that follows the grammar. -/
def plainLibraries : Libraries where
  fromStr token :=
    match readBody token.toList.length token.toList.tail with
    | some (chars, []) => .ok (String.ofList chars)
    | _ => .error "expected value"
  utf8Error _ := "invalid utf-8 sequence"

lemma plainLibraries_reads : plainLibraries.ReadsStrings := by
  intro cs s h
  obtain ⟨tail, rfl, hread⟩ := readBody_of_stringText h []
  rw [List.append_nil] at hread
  simp only [plainLibraries, String.toList_ofList, List.length_cons, List.tail_cons, hread,
    String.ofList_toList]

lemma written_repeated : JsonTree.Text "\x7b\"a\":1,\"\\u0061\": 2\x7d".toList
    (.object [("a", .number "1"), ("a", .number "2")]) := by
  have hdigit {c : Char} (hc : isDecimal c = true) (hzero : c ≠ '0') : NumberText [c] :=
    ⟨[], [c], [], [], .inl rfl, .inr ⟨⟨List.cons_ne_nil _ _, by simpa using hc⟩,
      by simpa using hzero⟩, .inl rfl, .inl rfl, rfl⟩
  have hone : NumberText "1".toList := hdigit rfl (by decide)
  have htwo : NumberText "2".toList := hdigit rfl (by decide)
  have hplain : StringText [quote, 'a', quote] "a" :=
    ⟨['a'], .cons (.plain (by decide) (by decide) (by decide)) .nil, rfl⟩
  have hescaped : StringText [quote, backslash, 'u', '0', '0', '6', '1', quote] "a" :=
    ⟨_, .cons (.unit (n := 0x61) rfl (by decide) (by decide)) .nil, rfl⟩
  have hblank : Blanks [' '] := by simp [Blanks, isBlank]
  exact ⟨[], _, [], blanks_nil, .object (.more blanks_nil hplain blanks_nil
    blanks_nil (.number hone) blanks_nil (.one blanks_nil hescaped blanks_nil
    hblank (.number htwo) blanks_nil)), blanks_nil, rfl⟩

lemma written_pair : JsonTree.Text "[1.50, null]".toList (.array [.number "1.50", .null]) := by
  have hnumber : NumberText "1.50".toList := ⟨[], ['1'], ['.', '5', '0'], [], .inl rfl,
    .inr ⟨⟨by decide, List.all_eq_true.mp rfl⟩, by decide⟩,
    .inr ⟨['5', '0'], ⟨by decide, List.all_eq_true.mp rfl⟩, rfl⟩, .inl rfl, rfl⟩
  have hblank : Blanks [' '] := by simp [Blanks, isBlank]
  exact ⟨[], _, [], blanks_nil, .array (.more blanks_nil (.number hnumber)
    blanks_nil (.one hblank .null blanks_nil)), blanks_nil, rfl⟩

theorem strict_reader_plain :
    parseJson plainLibraries (Utf8.encode "[1.50, null]")
        = .ok (.array [.number (.text "1.50"), .null])
      ∧ ∃ reason, parseJson plainLibraries (Utf8.encode "\x7b\"a\":1,\"\\u0061\": 2\x7d")
        = .error (.refused reason) := by
  obtain ⟨hread, hrefuse, -⟩ := strict_reader plainLibraries_reads
  refine ⟨hread _ _ written_pair (by decide) (by simp [JsonTree.Distinct, JsonTree.DistinctItems]),
    hrefuse _ _ written_repeated fun h => ?_⟩
  simp [JsonTree.Distinct] at h

end MacpRuntime.Http
