import MacpRuntime.Lib.JsonCodec
import MacpRuntime.Lib.LineLog

/-!
JSON objects as the lines of a file.  What was read off a text is read off in the same way whatever
follows it, so **a proper beginning of an object is not a value** (`parse_beginning`): the object's
own closing brace is its last character.
-/

namespace Json

open LineLog

/-! ### What follows a value -/

variable {cs rest : List Char}

/-- What is read off is put to use, and what follows it is left. -/
lemma map_append {α β : Type} {o o' : Option (α × List Char)} {f : α → β} {b : β} {x : List Char}
    (h : o.map (fun r => (f r.1, r.2)) = some (b, rest))
    (ho : ∀ {a rest}, o = some (a, rest) → o' = some (a, rest ++ x)) :
    o'.map (fun r => (f r.1, r.2)) = some (b, rest ++ x) := by
  obtain ⟨r, hr, hmap⟩ := Option.map_eq_some_iff.mp h
  cases hmap
  rw [ho hr, Option.map_some]

lemma readEscape_append {c : Char} (h : readEscape cs = some (c, rest)) (x : List Char) :
    readEscape (cs ++ x) = some (c, rest ++ x) := by
  unfold readEscape at h
  split at h
  · obtain ⟨n, hn, h⟩ := Option.bind_eq_some_iff.mp h
    simp only [List.cons_append, readEscape, hn, Option.bind_some]
    split_ifs at h ⊢
    · split at h
      · obtain ⟨lo, hlo, hmap⟩ := Option.map_eq_some_iff.mp h
        obtain ⟨rfl, rfl⟩ := Prod.mk.inj hmap
        simp only [List.cons_append, hlo, Option.map_some]
      · cases h
    · cases h
      rfl
  · obtain ⟨d, hd, hmap⟩ := Option.map_eq_some_iff.mp h
    cases hmap
    exact readEscape_letter hd _
  · cases h

lemma readBody_append {k k' : ℕ} {s : List Char} (h : readBody k cs = some (s, rest)) (hk : k ≤ k')
    (x : List Char) : readBody k' (cs ++ x) = some (s, rest ++ x) := by
  induction k generalizing cs s rest k' with
  | zero => cases h
  | succ k ih =>
    obtain ⟨k', rfl⟩ : ∃ j, k' = j + 1 := ⟨k' - 1, by omega⟩
    rcases cs with _ | ⟨c, cs⟩
    · cases h
    rw [readBody] at h
    rw [List.cons_append, readBody]
    split_ifs at h ⊢
    · cases h
      rfl
    · obtain ⟨e, he, h⟩ := Option.bind_eq_some_iff.mp h
      rw [readEscape_append he, Option.bind_some]
      exact map_append h fun hr => ih hr (by omega)
    · exact map_append h fun hr => ih hr (by omega)

lemma expect_append {ls : List Char} (h : expect ls cs = some rest) (x : List Char) :
    expect ls (cs ++ x) = some (rest ++ x) := by
  induction ls generalizing cs with
  | nil =>
    cases h
    rfl
  | cons l ls ih =>
    cases cs with
    | nil => cases h
    | cons c cs =>
      rw [expect] at h
      rw [List.cons_append, expect]
      split_ifs at h ⊢ with hc
      · exact ih h

/-- What follows a number that is ended changes nothing. -/
lemma takeWhile_append_of_dropWhile {p : Char → Bool} (h : cs.dropWhile p ≠ []) (x : List Char) :
    (cs ++ x).takeWhile p = cs.takeWhile p ∧ (cs ++ x).dropWhile p = cs.dropWhile p ++ x := by
  induction cs with
  | nil => exact absurd rfl h
  | cons c cs ih =>
    rw [List.cons_append, List.takeWhile_cons, List.takeWhile_cons, List.dropWhile_cons,
      List.dropWhile_cons]
    rw [List.dropWhile_cons] at h
    split_ifs at h ⊢ with hc
    · obtain ⟨htake, hdrop⟩ := ih h
      exact ⟨by rw [htake], hdrop⟩
    · exact ⟨rfl, rfl⟩

/-- A text after which a value is read off in the same way, whatever follows. -/
def Closed (cs rest : List Char) : Prop := rest ≠ [] ∨ ∃ c ∈ cs.head?, isNumberChar c = false

lemma skip_append (h : skip cs ≠ []) (x : List Char) : skip (cs ++ x) = skip cs ++ x :=
  (takeWhile_append_of_dropWhile h x).2

lemma ne_nil_of_skip (h : skip cs ≠ []) : cs ≠ [] := by
  rintro rfl
  exact h rfl

lemma parseValue_nil (k : ℕ) : parseValue k [] = none := by
  cases k <;> rfl

lemma parseItems_nil (k : ℕ) : parseItems k [] = none := by
  cases k with
  | zero => rfl
  | succ k => rw [parseItems, parseValue_nil, Option.bind_none]

lemma parseMembers_nil (k : ℕ) : parseMembers k [] = none := by
  cases k <;> rfl

/-- A member is read off in the same way if its value is. -/
lemma parseMember_append {value value' : List Char → Option (Json × List Char)} {m : String × Json}
    {x : List Char} (hnil : value [] = none)
    (hvalue : ∀ {cs v rest}, value cs = some (v, rest) → rest ≠ [] →
      value' (cs ++ x) = some (v, rest ++ x))
    (h : parseMember value cs = some (m, rest)) (hrest : rest ≠ []) :
    parseMember value' (cs ++ x) = some (m, rest ++ x) := by
  obtain ⟨cs₁, hquote, h⟩ := Option.bind_eq_some_iff.mp h
  obtain ⟨key, hkey, h⟩ := Option.bind_eq_some_iff.mp h
  obtain ⟨cs₂, hcolon, h⟩ := Option.bind_eq_some_iff.mp h
  obtain ⟨r, hr, hmap⟩ := Option.map_eq_some_iff.mp h
  cases hmap
  have hafter : skip key.2 ≠ [] := by
    intro hempty
    rw [hempty] at hcolon
    cases hcolon
  have hstart : skip cs₂ ≠ [] := by
    intro hempty
    rw [hempty, hnil] at hr
    cases hr
  rw [parseMember, expect_append hquote, Option.bind_some,
    readBody_append hkey (by rw [List.length_append]; omega), Option.bind_some]
  dsimp only
  rw [skip_append hafter, expect_append hcolon, Option.bind_some, skip_append hstart,
    hvalue hr (ne_nil_of_skip hrest), Option.map_some]
  dsimp only
  rw [skip_append hrest]

/-- **What was read off is read off in the same way whatever follows it**, with as much fuel or
more: a value if it is ended, items and members always. -/
lemma parse_append (k : ℕ) :
    (∀ {cs : List Char} {v : Json} {rest : List Char}, parseValue k cs = some (v, rest) →
      Closed cs rest → ∀ {k' : ℕ}, k ≤ k' → ∀ x : List Char,
        parseValue k' (cs ++ x) = some (v, rest ++ x))
    ∧ (∀ {cs : List Char} {vs : List Json} {rest : List Char},
      parseItems k cs = some (vs, rest) → ∀ {k' : ℕ}, k ≤ k' → ∀ x : List Char,
        parseItems k' (cs ++ x) = some (vs, rest ++ x))
    ∧ ∀ {cs : List Char} {ms : List (String × Json)} {rest : List Char},
      parseMembers k cs = some (ms, rest) → ∀ {k' : ℕ}, k ≤ k' → ∀ x : List Char,
        parseMembers k' (cs ++ x) = some (ms, rest ++ x) := by
  induction k with
  | zero =>
    refine ⟨fun h => ?_, fun h => ?_, fun h => ?_⟩ <;> cases h
  | succ k ih =>
    obtain ⟨ihvalue, ihitems, ihmembers⟩ := ih
    refine ⟨?_, ?_, ?_⟩
    · intro cs v rest h hclosed k' hk x
      obtain ⟨k', rfl⟩ : ∃ j, k' = j + 1 := ⟨k' - 1, by omega⟩
      rcases cs with _ | ⟨c, cs⟩
      · cases h
      rw [parseValue.eq_def] at h
      rw [List.cons_append, parseValue.eq_def]
      dsimp only at h ⊢
      split_ifs at h ⊢ with h1 h2 h3 h4 h5 h6
      · exact map_append (f := fun chars => Json.string (String.ofList chars)) h
          fun hr => readBody_append hr (by rw [List.length_append]; omega) x
      · rcases hskip : skip cs with _ | ⟨d, cs'⟩
        · rw [hskip] at h
          cases h
        · rw [skip_append (by rw [hskip]; exact List.cons_ne_nil _ _), hskip]
          rw [hskip] at h
          dsimp only [List.cons_append] at h ⊢
          split_ifs at h ⊢
          · cases h
            rfl
          · exact map_append h fun hr => ihitems hr (by omega) x
      · rcases hskip : skip cs with _ | ⟨d, cs'⟩
        · rw [hskip] at h
          cases h
        · rw [skip_append (by rw [hskip]; exact List.cons_ne_nil _ _), hskip]
          rw [hskip] at h
          dsimp only [List.cons_append] at h ⊢
          split_ifs at h ⊢
          · cases h
            rfl
          · exact map_append h fun hr => ihmembers hr (by omega) x
      · obtain ⟨r, hr, hmap⟩ := Option.map_eq_some_iff.mp h
        cases hmap
        rw [expect_append hr, Option.map_some]
      · obtain ⟨r, hr, hmap⟩ := Option.map_eq_some_iff.mp h
        cases hmap
        rw [expect_append hr, Option.map_some]
      · obtain ⟨r, hr, hmap⟩ := Option.map_eq_some_iff.mp h
        cases hmap
        rw [expect_append hr, Option.map_some]
      · obtain ⟨n, hn, hmap⟩ := Option.map_eq_some_iff.mp h
        cases hmap
        have hended : (c :: cs).dropWhile isNumberChar ≠ [] := by
          rcases hclosed with hne | ⟨d, hd, hnum⟩
          · exact hne
          · -- a number begins with a character of a number
            rw [List.head?_cons, Option.mem_some_iff] at hd
            subst hd
            rw [List.takeWhile_cons, hnum] at hn
            cases hn
        obtain ⟨htake, hdrop⟩ := takeWhile_append_of_dropWhile hended x
        rw [List.cons_append] at htake hdrop
        rw [htake, hdrop, hn, Option.map_some]
    · intro cs vs rest h k' hk x
      obtain ⟨k', rfl⟩ : ∃ j, k' = j + 1 := ⟨k' - 1, by omega⟩
      rw [parseItems] at h ⊢
      obtain ⟨r, hr, h⟩ := Option.bind_eq_some_iff.mp h
      have hskip : skip r.2 ≠ [] := by
        intro hempty
        rw [hempty] at h
        cases h
      rw [ihvalue hr (.inl (ne_nil_of_skip hskip)) (by omega) x, Option.bind_some]
      dsimp only
      rw [skip_append hskip]
      split at h
      · rename_i heq
        cases h
        rw [heq]
        rfl
      · rename_i cs' heq
        have hmore : skip cs' ≠ [] := by
          intro hempty
          rw [hempty, parseItems_nil] at h
          cases h
        rw [heq]
        change (parseItems k' (skip (cs' ++ x))).map _ = _
        rw [skip_append hmore]
        exact map_append h fun ht => ihitems ht (by omega) x
      · cases h
    · intro cs ms rest h k' hk x
      obtain ⟨k', rfl⟩ : ∃ j, k' = j + 1 := ⟨k' - 1, by omega⟩
      rw [parseMembers] at h ⊢
      obtain ⟨⟨m, cs'⟩, hr, h⟩ := Option.bind_eq_some_iff.mp h
      rcases cs' with _ | ⟨d, cs'⟩
      · cases h
      rw [parseMember_append (parseValue_nil k)
        (fun hv hne => ihvalue hv (.inl hne) (show k ≤ k' by omega) x) hr (List.cons_ne_nil _ _),
        Option.bind_some]
      dsimp only [List.cons_append] at h ⊢
      split_ifs at h ⊢
      · cases h
        rfl
      · have hmore : skip cs' ≠ [] := by
          intro hempty
          rw [hempty, parseMembers_nil] at h
          cases h
        rw [skip_append hmore]
        exact map_append h fun ht => ihmembers ht (by omega) x

/-- **A proper beginning of an object is not a value.** -/
theorem parse_beginning {members : List (String × Json)}
    (hliteral : (Json.object members).Literal) {p : List Char}
    (hbegin : p <+: write (.object members)) (hne : p ≠ write (.object members)) :
    parse p = none := by
  obtain ⟨x, hx⟩ := hbegin
  rcases p with _ | ⟨c, p⟩
  · rfl
  obtain ⟨hc, -⟩ := List.cons.inj ((List.cons_append ..).symm.trans hx)
  have hskip : skip (c :: p) = c :: p := by rw [skip, List.dropWhile_cons, hc]; rfl
  rw [parse, hskip, Option.bind_eq_none_iff]
  rintro ⟨v, rest⟩ hread
  -- the whole text would be read off up to `x`
  have hlen := congrArg List.length hx
  rw [List.length_append] at hlen
  have hbeyond := (parse_append _).1 hread (.inr ⟨c, rfl, by rw [hc]; rfl⟩)
    (show _ ≤ 2 * (write (.object members)).length + 1 by omega) x
  have hwhole := parseValue_of_valueText (valueText_write _ hliteral) _ []
    (Nat.lt_succ_self _) (fun _ hc => by cases hc)
  rw [List.append_nil] at hwhole
  rw [hx, hwhole] at hbeyond
  have hrest : rest ++ x = [] := (congrArg Prod.snd (Option.some.inj hbeyond)).symm
  rw [(List.append_eq_nil_iff.mp hrest).2, List.append_nil] at hx
  exact absurd hx hne

/-! ### The characters of a text -/

lemma printable_of_isNumberChar {c : Char} (h : isNumberChar c = true) : Printable c := by
  simp only [isNumberChar, isDecimal, Bool.or_eq_true, Bool.and_eq_true, decide_eq_true_eq,
    beq_iff_eq] at h
  rcases h with ((((⟨h, _⟩ | rfl) | rfl) | rfl) | rfl) | rfl
  · exact le_trans (by decide) h
  all_goals decide

lemma printable_of_all (h : cs.all (fun c => 32 ≤ c.toNat) = true) : ∀ d ∈ cs, Printable d :=
  fun d hd => of_decide_eq_true (List.all_eq_true.mp h d hd)

lemma printable_escapeChar (c : Char) : ∀ d ∈ escapeChar c, Printable d := by
  unfold escapeChar
  split_ifs with hq hb hc
  · exact printable_of_all rfl
  · exact printable_of_all rfl
  · generalize c.toNat = n at hc
    interval_cases n <;> exact printable_of_all rfl
  · intro d hd
    rw [List.mem_singleton.mp hd]
    exact Nat.le_of_not_lt hc

lemma printable_writeString (s : String) : ∀ d ∈ writeString s, Printable d := by
  intro d hd
  rw [writeString, List.mem_cons, List.mem_append, List.mem_flatMap, List.mem_singleton] at hd
  rcases hd with rfl | ⟨c, _, hd⟩ | rfl
  · decide
  · exact printable_escapeChar c d hd
  · decide

mutual

/-- A written value has no control characters. -/
lemma printable_write : ∀ v : Json, v.Literal → ∀ d ∈ write v, Printable d
  | .null, _ => printable_of_all (by rw [write]; rfl)
  | .bool b, _ => printable_of_all (by rw [write]; cases b <;> rfl)
  | .number n, h => by
    rw [write]
    exact fun d hd => printable_of_isNumberChar ((numberText_writeNumber h).chars.2 d hd)
  | .string s, _ => by
    rw [write]
    exact printable_writeString s
  | .array items, h => by
    intro d hd
    rw [write, List.mem_cons, List.mem_append, List.mem_singleton] at hd
    rcases hd with rfl | hd | rfl
    · decide
    · exact printable_writeItems items h d hd
    · decide
  | .object members, h => by
    intro d hd
    rw [write, List.mem_cons, List.mem_append, List.mem_singleton] at hd
    rcases hd with rfl | hd | rfl
    · decide
    · exact printable_writeMembers members h.2 d hd
    · decide

lemma printable_writeItems : ∀ vs : List Json, LiteralItems vs → ∀ d ∈ writeItems vs, Printable d
  | [], _ => by simp [writeItems]
  | v :: vs, h => by
    intro d hd
    rw [writeItems, List.mem_append] at hd
    rcases hd with hd | hd
    · exact printable_write v h.1 d hd
    · split_ifs at hd
      · cases hd
      · rcases List.mem_cons.mp hd with rfl | hd
        · decide
        · exact printable_writeItems vs h.2 d hd

lemma printable_writeMembers : ∀ ms : List (String × Json), LiteralMembers ms →
    ∀ d ∈ writeMembers ms, Printable d
  | [], _ => by simp [writeMembers]
  | (k, v) :: ms, h => by
    intro d hd
    rw [writeMembers, List.mem_append, List.mem_cons, List.mem_append] at hd
    rcases hd with hd | rfl | hd | hd
    · exact printable_writeString k d hd
    · decide
    · exact printable_write v h.1 d hd
    · split_ifs at hd
      · cases hd
      · rcases List.mem_cons.mp hd with rfl | hd
        · decide
        · exact printable_writeMembers ms h.2 d hd

end

end Json

/-- The lines of a type whose values are written as objects. -/
def JsonCodec.lineCodec {α : Type} (c : JsonCodec α)
    (hobject : ∀ a, ∃ members, c.toJson a = .object members) : LineLog.LineCodec α where
  write a := (c.toJson a).write
  read text := (Json.parse text).bind c.fromJson
  read_write a := by
    rw [Json.parse_of_denotes (Json.denotes_write (c.literal a)), Option.bind_some,
      c.fromJson_toJson]
  printable a := Json.printable_write _ (c.literal a)
  visible a := by
    obtain ⟨members, hmembers⟩ := hobject a
    rw [hmembers, Json.write, List.all_cons]
    rfl
  read_beginning a p hbegin hne := by
    obtain ⟨members, hmembers⟩ := hobject a
    have hint := c.literal a
    rw [hmembers] at hint hbegin hne
    rw [Json.parse_beginning hint hbegin hne, Option.bind_none]
