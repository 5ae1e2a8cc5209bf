import MacpRuntime.Lib.Fallible
import MacpRuntime.Lib.JsonGrammar

/-!
JSON texts as trees that keep the text of their numbers.

* `Written`: every text of a tree, with blanks anywhere and strings spelled in any way;
* `Scan`: what a reader makes of a text with a known tree: the value of the tree when the tree is
  good, and a refusal otherwise; `Scan.bind` composes readers.
-/

/-- A JSON value, with the text of its numbers. -/
inductive JsonTree where
  | null
  | bool (b : Bool)
  | number (text : String)
  | string (s : String)
  | array (items : List JsonTree)
  | object (members : List (String × JsonTree))

namespace JsonTree

open Json (Blanks StringText NumberText quote openBrace closeBrace isBlank isNumberChar Stops Ends)

/-! ### Depth and keys -/

mutual

/-- The number of levels: a value at depth zero that holds no other has one. -/
def height : JsonTree → ℕ
  | .array items => heightItems items + 1
  | .object members => heightMembers members + 1
  | _ => 1

/-- The height of an array's items. -/
def heightItems : List JsonTree → ℕ
  | [] => 0
  | v :: vs => max v.height (heightItems vs)

/-- The height of an object's members. -/
def heightMembers : List (String × JsonTree) → ℕ
  | [] => 0
  | (_, v) :: ms => max v.height (heightMembers ms)

end

mutual

/-- No object holds a key twice, at any depth. -/
def Distinct : JsonTree → Prop
  | .array items => DistinctItems items
  | .object members => (members.map Prod.fst).Nodup ∧ DistinctMembers members
  | _ => True

/-- No item repeats a key. -/
def DistinctItems : List JsonTree → Prop
  | [] => True
  | v :: vs => v.Distinct ∧ DistinctItems vs

/-- No member repeats a key. -/
def DistinctMembers : List (String × JsonTree) → Prop
  | [] => True
  | (_, v) :: ms => v.Distinct ∧ DistinctMembers ms

end

lemma height_pos (v : JsonTree) : 0 < v.height := by
  cases v <;> simp [height]

variable {v : JsonTree} {vs : List JsonTree} {ms : List (String × JsonTree)} {cs : List Char}

lemma heightItems_cons_le {depth limit : ℕ} :
    heightItems (v :: vs) + depth ≤ limit
      ↔ v.height + depth ≤ limit ∧ heightItems vs + depth ≤ limit := by
  rw [heightItems]
  omega

lemma heightMembers_cons_le {k : String} {depth limit : ℕ} :
    heightMembers ((k, v) :: ms) + depth ≤ limit
      ↔ v.height + depth ≤ limit ∧ heightMembers ms + depth ≤ limit := by
  rw [heightMembers]
  omega

/-! ### Texts -/

mutual

/-- A text of a value, without blanks around it. -/
inductive Written : List Char → JsonTree → Prop
  | null : Written ['n', 'u', 'l', 'l'] .null
  | boolTrue : Written ['t', 'r', 'u', 'e'] (.bool true)
  | boolFalse : Written ['f', 'a', 'l', 's', 'e'] (.bool false)
  | number {text : String} : NumberText text.toList → Written text.toList (.number text)
  | string {cs : List Char} {s : String} : StringText cs s → Written cs (.string s)
  | emptyArray {ws : List Char} : Blanks ws → Written ('[' :: (ws ++ [']'])) (.array [])
  | array {cs : List Char} {items : List JsonTree} : WrittenItems cs items →
      Written ('[' :: (cs ++ [']'])) (.array items)
  | emptyObject {ws : List Char} : Blanks ws →
      Written (openBrace :: (ws ++ [closeBrace])) (.object [])
  | object {cs : List Char} {members : List (String × JsonTree)} : WrittenMembers cs members →
      Written (openBrace :: (cs ++ [closeBrace])) (.object members)

/-- The items of an array, separated by commas. -/
inductive WrittenItems : List Char → List JsonTree → Prop
  | one {a cs b : List Char} {v : JsonTree} : Blanks a → Written cs v → Blanks b →
      WrittenItems (a ++ (cs ++ b)) [v]
  | more {a cs b rest : List Char} {v : JsonTree} {vs : List JsonTree} : Blanks a → Written cs v →
      Blanks b → WrittenItems rest vs → WrittenItems (a ++ (cs ++ (b ++ ',' :: rest))) (v :: vs)

/-- The members of an object, separated by commas. -/
inductive WrittenMembers : List Char → List (String × JsonTree) → Prop
  | one {a key b c cs d : List Char} {k : String} {v : JsonTree} : Blanks a → StringText key k →
      Blanks b → Blanks c → Written cs v → Blanks d →
      WrittenMembers (a ++ (key ++ (b ++ ':' :: (c ++ (cs ++ d))))) [(k, v)]
  | more {a key b c cs d rest : List Char} {k : String} {v : JsonTree}
      {ms : List (String × JsonTree)} :
      Blanks a → StringText key k → Blanks b → Blanks c → Written cs v → Blanks d →
      WrittenMembers rest ms →
      WrittenMembers (a ++ (key ++ (b ++ ':' :: (c ++ (cs ++ (d ++ ',' :: rest)))))) ((k, v) :: ms)

end

/-- A whole text of a value. -/
def Text (text : List Char) (v : JsonTree) : Prop :=
  ∃ a cs b, Blanks a ∧ Written cs v ∧ Blanks b ∧ text = a ++ (cs ++ b)

/-- What a value begins with. -/
lemma Written.head (h : Written cs v) : ∃ c t, cs = c :: t ∧ isBlank c = false ∧ c ≠ ']' := by
  cases h with
  | number hnumber =>
    obtain ⟨hne, hchars⟩ := hnumber.chars
    obtain ⟨c, t, ht⟩ := List.exists_cons_of_ne_nil hne
    have hc := hchars c (ht ▸ List.mem_cons_self)
    refine ⟨c, t, ht, ?_, ?_⟩
    · by_contra hblank
      rw [Json.not_number_of_isBlank (by simpa using hblank)] at hc
      cases hc
    · rintro rfl
      cases hc
  | string hstring =>
    obtain ⟨body, -, rfl⟩ := hstring
    exact ⟨quote, _, rfl, by decide, by decide⟩
  | _ => exact ⟨_, _, rfl, by decide, by decide⟩

lemma Written.stops (h : Written cs v) (rest : List Char) : Stops (cs ++ rest) := by
  obtain ⟨c, t, rfl, hblank, -⟩ := h.head
  exact Json.stops_cons hblank _

lemma stops_of_stringText {key : List Char} {k : String} (h : StringText key k)
    (rest : List Char) : Stops (key ++ rest) := (Written.string h).stops rest

/-- The items begin with a value, after blanks. -/
lemma WrittenItems.skip_eq (h : WrittenItems cs vs) (rest : List Char) :
    ∃ c t, c ≠ ']' ∧ Json.skip (cs ++ rest) = c :: t := by
  have hfirst {a cs : List Char} {v : JsonTree} (ha : Blanks a) (hv : Written cs v)
      (rest : List Char) : ∃ c t, c ≠ ']' ∧ Json.skip (a ++ (cs ++ rest)) = c :: t := by
    obtain ⟨c, t, rfl, -, hc⟩ := hv.head
    exact ⟨c, t ++ rest, hc, Json.skip_blanks ha (hv.stops rest)⟩
  cases h with
  | one ha hv hb =>
    simp only [List.append_assoc]
    exact hfirst ha hv _
  | more ha hv hb _ =>
    simp only [List.append_assoc]
    exact hfirst ha hv _

/-- The members begin with a key, after blanks. -/
lemma WrittenMembers.skip_eq (h : WrittenMembers cs ms) (rest : List Char) :
    ∃ t, Json.skip (cs ++ rest) = quote :: t := by
  have hfirst {a key : List Char} {k : String} (ha : Blanks a) (hkey : StringText key k)
      (rest : List Char) : ∃ t, Json.skip (a ++ (key ++ rest)) = quote :: t := by
    rw [Json.skip_blanks ha (stops_of_stringText hkey rest)]
    obtain ⟨body, -, rfl⟩ := hkey
    exact ⟨_, rfl⟩
  cases h with
  | one ha hkey _ _ _ _ =>
    simp only [List.append_assoc]
    exact hfirst ha hkey _
  | more ha hkey _ _ _ _ _ =>
    simp only [List.append_assoc]
    exact hfirst ha hkey _

end JsonTree

/-! ### What a reader makes of a text -/

section Scan

universe u

variable {ε : Type*} {α β : Type u} {good good' : Prop} {refused : ε → Prop}

/-- The outcome of a reader on a text: the value when the text is good, and otherwise an error of
the kind it refuses a text with. -/
structure Scan (refused : ε → Prop) (good : Prop) (a : α) (o : Except ε α) : Prop where
  ok : good → o = .ok a
  error : ¬ good → ∃ e, refused e ∧ o = .error e

lemma Scan.of_ok (a : α) : Scan refused True a (.ok a : Except ε α) :=
  ⟨fun _ => rfl, fun h => absurd trivial h⟩

lemma Scan.of_error {e : ε} (he : refused e) (hbad : ¬ good) (a : α) :
    Scan refused good a (.error e : Except ε α) :=
  ⟨fun h => absurd h hbad, fun _ => ⟨e, he, rfl⟩⟩

variable {o : Except ε α}

lemma Scan.congr {a : α} (h : Scan refused good a o) (hiff : good ↔ good') :
    Scan refused good' a o :=
  ⟨fun hg => h.ok (hiff.mpr hg), fun hg => h.error (mt hiff.mp hg)⟩

/-- Readers in a row: the text is good when both parts are. -/
lemma Scan.bind {whole : Prop} {a : α} {b : β} {f : α → Except ε β} (h : Scan refused good a o)
    (good' : Prop) (hf : good → Scan refused good' b (f a)) (hiff : whole ↔ good ∧ good') :
    Scan refused whole b (o >>= f) := by
  by_cases hgood : good
  · rw [h.ok hgood, Except.ok_bind]
    exact (hf hgood).congr ((and_iff_right hgood).symm.trans hiff.symm)
  · obtain ⟨e, he, ho⟩ := h.error hgood
    rw [ho]
    exact .of_error he (fun hwhole => hgood (hiff.mp hwhole).1) b

end Scan
