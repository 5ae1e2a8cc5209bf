import Mathlib.Tactic

/-!
UTF-8 over lists of bytes.  The decoder refuses overlong forms, surrogates, code points above
`0x10FFFF` and stray continuation bytes; **decoding an encoded text gives the text back**
(`decode_encode`).
-/

namespace Utf8

variable (c : Char)

/-- The bytes of one character. -/
def encodeChar : List UInt8 :=
  let n := c.toNat
  if n < 0x80 then [UInt8.ofNat n]
  else if n < 0x800 then [UInt8.ofNat (0xC0 + n / 64), UInt8.ofNat (0x80 + n % 64)]
  else if n < 0x10000 then
    [UInt8.ofNat (0xE0 + n / 4096), UInt8.ofNat (0x80 + n / 64 % 64), UInt8.ofNat (0x80 + n % 64)]
  else
    [UInt8.ofNat (0xF0 + n / 262144), UInt8.ofNat (0x80 + n / 4096 % 64),
      UInt8.ofNat (0x80 + n / 64 % 64), UInt8.ofNat (0x80 + n % 64)]

variable (s : String)

/-- The bytes of a text. -/
def encode : List UInt8 := s.toList.flatMap encodeChar

/-- Whether a byte continues a character. -/
def isCont (b : UInt8) : Bool := 0x80 ≤ b.toNat && b.toNat < 0xC0

/-- Prepend the character with code point `n`, which must be at least `lo` (no overlong
form) and a scalar value. -/
def consChar (lo n : ℕ) (rest : Option (List Char)) : Option (List Char) :=
  if lo ≤ n ∧ n.isValidChar then rest.map (Char.ofNat n :: ·) else none

/-- The characters of a byte string. -/
def decodeChars : List UInt8 → Option (List Char)
  | [] => some []
  | b₀ :: r₀ =>
    if b₀.toNat < 0x80 then consChar 0 b₀.toNat (decodeChars r₀)
    else
      match r₀ with
      | [] => none
      | b₁ :: r₁ =>
        if !isCont b₁ then none
        else if b₀.toNat < 0xE0 then
          consChar 0x80 ((b₀.toNat - 0xC0) * 64 + (b₁.toNat - 0x80)) (decodeChars r₁)
        else
          match r₁ with
          | [] => none
          | b₂ :: r₂ =>
            if !isCont b₂ then none
            else if b₀.toNat < 0xF0 then
              consChar 0x800 ((b₀.toNat - 0xE0) * 4096 + (b₁.toNat - 0x80) * 64
                + (b₂.toNat - 0x80)) (decodeChars r₂)
            else
              match r₂ with
              | [] => none
              | b₃ :: r₃ =>
                if !isCont b₃ then none
                else
                  consChar 0x10000 ((b₀.toNat - 0xF0) * 262144 + (b₁.toNat - 0x80) * 4096
                    + (b₂.toNat - 0x80) * 64 + (b₃.toNat - 0x80)) (decodeChars r₃)

/-- The text of a byte string, when it is well-formed UTF-8. -/
def decode (bytes : List UInt8) : Option String := (decodeChars bytes).map String.ofList

lemma toNat_ofNat_of_lt {n : ℕ} (h : n < 256) : (UInt8.ofNat n).toNat = n := by
  rw [UInt8.toNat_ofNat']
  exact Nat.mod_eq_of_lt h

lemma isCont_ofNat {n : ℕ} (h : n < 64) : isCont (UInt8.ofNat (0x80 + n)) = true := by
  rw [isCont, toNat_ofNat_of_lt (by omega)]
  simp
  omega

/-- Prepending a character by its own code point. -/
lemma consChar_toNat {lo n : ℕ} (c : Char) (hn : n = c.toNat) (hlo : lo ≤ c.toNat)
    (rest : Option (List Char)) : consChar lo n rest = rest.map (c :: ·) := by
  subst hn
  rw [consChar, if_pos ⟨hlo, c.valid⟩, Char.ofNat_toNat]

lemma toNat_lt : c.toNat < 0x110000 := by
  have := c.valid
  simp only [UInt32.isValidChar, Nat.isValidChar] at this
  change c.val.toNat < _
  omega

/-- The bytes of one character are read back as that character. -/
lemma decodeChars_encodeChar (rest : List UInt8) :
    decodeChars (encodeChar c ++ rest) = (decodeChars rest).map (c :: ·) := by
  have hmax := toNat_lt c
  unfold encodeChar
  dsimp only
  split_ifs with h1 h2 h3
  · rw [decodeChars.eq_def]
    dsimp only [List.cons_append, List.nil_append]
    rw [toNat_ofNat_of_lt (by omega), if_pos h1]
    exact consChar_toNat c rfl (by omega) _
  · have hb : (UInt8.ofNat (0xC0 + c.toNat / 64)).toNat = 0xC0 + c.toNat / 64 :=
      toNat_ofNat_of_lt (by omega)
    rw [decodeChars.eq_def]
    dsimp only [List.cons_append, List.nil_append]
    rw [hb, if_neg (by omega), isCont_ofNat (by omega), if_neg (by decide), if_pos (by omega),
      toNat_ofNat_of_lt (by omega)]
    exact consChar_toNat c (by omega) (by omega) _
  · have hb : (UInt8.ofNat (0xE0 + c.toNat / 4096)).toNat = 0xE0 + c.toNat / 4096 :=
      toNat_ofNat_of_lt (by omega)
    rw [decodeChars.eq_def]
    dsimp only [List.cons_append, List.nil_append]
    rw [hb, if_neg (by omega), isCont_ofNat (by omega), if_neg (by decide), if_neg (by omega),
      isCont_ofNat (by omega), if_neg (by decide), if_pos (by omega),
      toNat_ofNat_of_lt (by omega), toNat_ofNat_of_lt (by omega)]
    exact consChar_toNat c (by omega) (by omega) _
  · have hb : (UInt8.ofNat (0xF0 + c.toNat / 262144)).toNat = 0xF0 + c.toNat / 262144 :=
      toNat_ofNat_of_lt (by omega)
    rw [decodeChars.eq_def]
    dsimp only [List.cons_append, List.nil_append]
    rw [hb, if_neg (by omega), isCont_ofNat (by omega), if_neg (by decide), if_neg (by omega),
      isCont_ofNat (by omega), if_neg (by decide), if_neg (by omega), isCont_ofNat (by omega),
      if_neg (by decide), toNat_ofNat_of_lt (by omega), toNat_ofNat_of_lt (by omega),
      toNat_ofNat_of_lt (by omega)]
    exact consChar_toNat c (by omega) (by omega) _

variable (cs : List Char)

/-- Encoded characters are read off the front of a byte string. -/
lemma decodeChars_flatMap_append (rest : List UInt8) :
    decodeChars (cs.flatMap encodeChar ++ rest) = (decodeChars rest).map (cs ++ ·) := by
  induction cs with
  | nil =>
    rw [List.flatMap_nil, List.nil_append]
    cases decodeChars rest <;> rfl
  | cons c cs ih =>
    rw [List.flatMap_cons, List.append_assoc, decodeChars_encodeChar, ih, Option.map_map]
    rfl

/-- **Decoding an encoded text gives the text back.** -/
theorem decode_encode : decode (encode s) = some s := by
  have h := decodeChars_flatMap_append s.toList []
  rw [List.append_nil] at h
  rw [decode, encode, h, decodeChars, Option.map_some, Option.map_some, List.append_nil,
    String.ofList_toList]

/-! ### Bytes of a text in parts -/

/-- The text after a beginning it has. -/
def stripPrefix (p s : String) : Option String :=
  if p.toList.isPrefixOf s.toList then some (String.ofList (s.toList.drop p.toList.length))
  else none

lemma stripPrefix_append (p s : String) : stripPrefix p (p ++ s) = some s := by
  rw [stripPrefix, String.toList_append, if_pos (by simp), List.drop_left, String.ofList_toList]

lemma utf8ByteSize_ofList_cons :
    (String.ofList (c :: cs)).utf8ByteSize = c.utf8Size + (String.ofList cs).utf8ByteSize := by
  rw [String.ofList_cons, String.utf8ByteSize_append, String.utf8ByteSize_singleton]

lemma length_encodeChar : (encodeChar c).length = c.utf8Size := by
  have h (n : UInt32) : c.val ≤ n ↔ c.toNat ≤ n.toNat := Iff.rfl
  unfold encodeChar Char.utf8Size
  dsimp only
  simp only [h]
  split_ifs <;> first | rfl | (simp at *; omega)

/-- The bytes of a text are counted by its size. -/
lemma length_encode : (encode s).length = s.utf8ByteSize := by
  have h (cs : List Char) :
      (cs.flatMap encodeChar).length = (String.ofList cs).utf8ByteSize := by
    induction cs with
    | nil => rfl
    | cons c cs ih =>
      rw [List.flatMap_cons, List.length_append, length_encodeChar, ih,
        utf8ByteSize_ofList_cons]
  rw [encode, h, String.ofList_toList]

lemma encode_injective : Function.Injective encode := by
  intro s t h
  have hs := decode_encode s
  rw [h, decode_encode] at hs
  exact (Option.some.inj hs).symm

/-- The bytes of a text as numbers, by which texts are ordered. -/
def bytes : List ℕ := (encode s).map UInt8.toNat

lemma bytes_injective : Function.Injective bytes := by
  intro a b h
  have htoNat : Function.Injective UInt8.toNat := fun _ _ h => UInt8.toNat_inj.mp h
  exact encode_injective (List.map_injective_iff.mpr htoNat h)

lemma encode_append (ds : List Char) :
    encode (String.ofList (cs ++ ds)) = encode (String.ofList cs) ++ encode (String.ofList ds) := by
  rw [encode, encode, encode, String.toList_ofList, String.toList_ofList, String.toList_ofList,
    List.flatMap_append]

/-- The zero byte is the character zero. -/
lemma toNat_eq_zero_of_mem {c : Char} (h : (0 : UInt8) ∈ encodeChar c) : c.toNat = 0 := by
  have hmax := toNat_lt c
  have hbyte {n : ℕ} (hn : n < 256) (hzero : (0 : UInt8) = UInt8.ofNat n) : n = 0 := by
    rw [← toNat_ofNat_of_lt hn, ← hzero]
    rfl
  unfold encodeChar at h
  dsimp only at h
  split_ifs at h with h1 h2 h3
  · exact hbyte (by omega) (List.mem_singleton.mp h)
  · simp only [List.mem_cons, List.not_mem_nil, or_false] at h
    rcases h with h | h <;> exact absurd (hbyte (by omega) h) (by omega)
  · simp only [List.mem_cons, List.not_mem_nil, or_false] at h
    rcases h with h | h | h <;> exact absurd (hbyte (by omega) h) (by omega)
  · simp only [List.mem_cons, List.not_mem_nil, or_false] at h
    rcases h with h | h | h | h <;> exact absurd (hbyte (by omega) h) (by omega)

lemma encodeChar_ne_nil : encodeChar c ≠ [] := by
  unfold encodeChar
  dsimp only
  split_ifs <;> exact List.cons_ne_nil _ _

/-- A text and the beginning of another have bytes in the order of their lengths. -/
lemma length_encode_take (k : ℕ) :
    (encode (String.ofList cs)).length ≤ (encode (String.ofList (cs.take k))).length
      ↔ cs.length ≤ k := by
  constructor
  · intro h
    by_contra hlt
    have hsplit := encode_append (cs.take k) (cs.drop k)
    rw [List.take_append_drop] at hsplit
    obtain ⟨c, rest, hdrop⟩ : ∃ c rest, cs.drop k = c :: rest :=
      List.exists_cons_of_ne_nil (by rw [Ne, List.drop_eq_nil_iff]; omega)
    have hpos : 0 < (encode (String.ofList (cs.drop k))).length := by
      rw [hdrop, encode, String.toList_ofList, List.flatMap_cons, List.length_append]
      have := List.length_pos_of_ne_nil (encodeChar_ne_nil c)
      omega
    rw [hsplit, List.length_append] at h
    omega
  · intro h
    rw [List.take_of_length_le h]

/-- The last byte of a character is below `0x80` only if it is the character. -/
lemma getLast?_encodeChar {c : Char} {b : UInt8} (h : (encodeChar c).getLast? = some b)
    (hb : b.toNat < 0x80) : c.toNat = b.toNat := by
  have hcont (n : ℕ) (hn : n < 64) (heq : UInt8.ofNat (0x80 + n) = b) : False := by
    rw [← heq, toNat_ofNat_of_lt (by omega)] at hb
    omega
  unfold encodeChar at h
  dsimp only at h
  split_ifs at h with h1 h2 h3 <;>
    simp only [List.getLast?_cons_cons, List.getLast?_singleton, Option.some.injEq] at h
  · rw [← h, toNat_ofNat_of_lt (by omega)]
  · exact (hcont _ (Nat.mod_lt _ (by omega)) h).elim
  · exact (hcont _ (Nat.mod_lt _ (by omega)) h).elim
  · exact (hcont _ (Nat.mod_lt _ (by omega)) h).elim

/-- A text whose bytes end in an ASCII character ends in that character. -/
lemma getLast?_encode {cs : List Char} {b : UInt8}
    (h : (encode (String.ofList cs)).getLast? = some b) (hb : b.toNat < 0x80) :
    cs.getLast? = some (Char.ofNat b.toNat) := by
  rcases List.eq_nil_or_concat cs with rfl | ⟨cs, c, rfl⟩
  · cases h
  · rw [List.concat_eq_append] at h ⊢
    have hone : encode (String.ofList [c]) = encodeChar c := by
      rw [encode, String.toList_ofList, List.flatMap_singleton]
    rw [encode_append, hone, List.getLast?_append_of_ne_nil _ (encodeChar_ne_nil c)] at h
    rw [List.getLast?_concat, ← getLast?_encodeChar h hb, Char.ofNat_toNat]

end Utf8
