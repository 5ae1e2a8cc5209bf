import MacpRuntime.Lib.Utf8

/-!
Base64, with and without padding, over an alphabet given with its inverse.  The reader refuses a
lone digit and digits whose unused low bits are set; **decoding an encoded byte string gives it
back** (`decode_encode`, `decodePadded_encodePadded`).
-/

namespace Base64

/-- The six-bit digits of a byte string, the last ones filled up with zero bits. -/
def sextets : List UInt8 → List ℕ
  | [] => []
  | [a] => [a.toNat / 4, a.toNat % 4 * 16]
  | [a, b] => [a.toNat / 4, a.toNat % 4 * 16 + b.toNat / 16, b.toNat % 16 * 4]
  | a :: b :: c :: rest =>
    a.toNat / 4 :: (a.toNat % 4 * 16 + b.toNat / 16) :: (b.toNat % 16 * 4 + c.toNat / 64)
      :: c.toNat % 64 :: sextets rest

/-- The bytes of six-bit digits. -/
def ofSextets : List ℕ → Option (List UInt8)
  | [] => some []
  | [_] => none
  | [x, y] => if y % 16 = 0 then some [UInt8.ofNat (x * 4 + y / 16)] else none
  | [x, y, z] =>
    if z % 4 = 0 then
      some [UInt8.ofNat (x * 4 + y / 16), UInt8.ofNat (y % 16 * 16 + z / 4)]
    else none
  | x :: y :: z :: w :: rest =>
    (ofSextets rest).map fun bytes =>
      UInt8.ofNat (x * 4 + y / 16) :: UInt8.ofNat (y % 16 * 16 + z / 4)
        :: UInt8.ofNat (z % 4 * 64 + w) :: bytes

lemma ofNat_of_eq {n : ℕ} {b : UInt8} (h : n = b.toNat) : UInt8.ofNat n = b := by
  rw [h, UInt8.ofNat_toNat]

variable (bytes : List UInt8)

lemma sextets_lt : ∀ x ∈ sextets bytes, x < 64 := by
  induction bytes using sextets.induct with
  | case1 => simp [sextets]
  | case2 a =>
    have := a.toNat_lt
    simp [sextets]
    omega
  | case3 a b =>
    have := a.toNat_lt
    have := b.toNat_lt
    simp [sextets]
    omega
  | case4 a b c rest ih =>
    have := a.toNat_lt
    have := b.toNat_lt
    have := c.toNat_lt
    simp only [sextets, List.mem_cons, forall_eq_or_imp]
    exact ⟨by omega, by omega, by omega, by omega, ih⟩

lemma ofSextets_sextets : ofSextets (sextets bytes) = some bytes := by
  induction bytes using sextets.induct with
  | case1 => rfl
  | case2 a =>
    have := a.toNat_lt
    rw [sextets, ofSextets, if_pos (by omega), ofNat_of_eq (b := a) (by omega)]
  | case3 a b =>
    have := a.toNat_lt
    have := b.toNat_lt
    rw [sextets, ofSextets, if_pos (by omega), ofNat_of_eq (b := a) (by omega),
      ofNat_of_eq (b := b) (by omega)]
  | case4 a b c rest ih =>
    have := a.toNat_lt
    have := b.toNat_lt
    have := c.toNat_lt
    rw [sextets, ofSextets, ih, Option.map_some, ofNat_of_eq (b := a) (by omega),
      ofNat_of_eq (b := b) (by omega), ofNat_of_eq (b := c) (by omega)]

lemma length_sextets : (sextets bytes).length = (4 * bytes.length + 2) / 3 := by
  induction bytes using sextets.induct with
  | case1 => rfl
  | case2 a => simp [sextets]
  | case3 a b => simp [sextets]
  | case4 a b c rest ih =>
    rw [sextets]
    simp only [List.length_cons, ih]
    omega

/-- The characters of the six-bit digits, each one byte long and neither a dot nor the sign that
pads. -/
structure Alphabet where
  char : ℕ → Char
  index : Char → Option ℕ
  index_char : ∀ n < 64, index (char n) = some n
  utf8Size_char : ∀ n < 64, (char n).utf8Size = 1
  char_ne : ∀ n < 64, char n ≠ '=' ∧ char n ≠ '.'

/-- An alphabet listed in the order of its digits. -/
def listed (chars : List Char)
    (hindex : ∀ n < 64, List.idxOf? (chars.getD n ' ') chars = some n)
    (hsize : ∀ n < 64, (chars.getD n ' ').utf8Size = 1)
    (hne : ∀ n < 64, chars.getD n ' ' ≠ '=' ∧ chars.getD n ' ' ≠ '.') : Alphabet where
  char n := chars.getD n ' '
  index c := chars.idxOf? c
  index_char := hindex
  utf8Size_char := hsize
  char_ne := hne

/-- The alphabet that is safe in URLs and file names. -/
def urlSafe : Alphabet :=
  listed "ABCDEFGHIJKLMNOPQRSTUVWXYZabcdefghijklmnopqrstuvwxyz0123456789-_".toList
    (by decide +kernel) (by decide +kernel) (by decide +kernel)

/-- The standard alphabet. -/
def standard : Alphabet :=
  listed "ABCDEFGHIJKLMNOPQRSTUVWXYZabcdefghijklmnopqrstuvwxyz0123456789+/".toList
    (by decide +kernel) (by decide +kernel) (by decide +kernel)

variable (alphabet : Alphabet) (bytes : List UInt8)

/-- The text of some bytes, without padding. -/
def encode : String :=
  String.ofList ((sextets bytes).map alphabet.char)

/-- The bytes of an unpadded text. -/
def decode (text : String) : Option (List UInt8) :=
  (text.toList.mapM alphabet.index).bind ofSextets

lemma mapM_index {digits : List ℕ} (h : ∀ x ∈ digits, x < 64) :
    (digits.map alphabet.char).mapM alphabet.index = some digits := by
  induction digits with
  | nil => rfl
  | cons x rest ih =>
    rw [List.map_cons, List.mapM_cons, alphabet.index_char x (h x List.mem_cons_self),
      ih fun y hy => h y (List.mem_cons_of_mem x hy)]
    rfl

/-- **Decoding an encoded byte string gives it back.** -/
theorem decode_encode : decode alphabet (encode alphabet bytes) = some bytes := by
  rw [decode, encode, String.toList_ofList, mapM_index alphabet (sextets_lt bytes),
    Option.bind_some, ofSextets_sextets]

lemma encode_injective : Function.Injective (encode alphabet) := by
  intro a b h
  have ha := decode_encode alphabet a
  rw [h, decode_encode] at ha
  exact (Option.some.inj ha).symm

/-- The text of an encoding has no dot. -/
lemma dot_notMem_encode : '.' ∉ (encode alphabet bytes).toList := by
  rw [encode, String.toList_ofList, List.mem_map]
  rintro ⟨n, hn, hdot⟩
  exact (alphabet.char_ne n (sextets_lt bytes n hn)).2 hdot

/-- The signs that fill up the last group. -/
def padding (length : ℕ) : List Char := List.replicate ((4 - length % 4) % 4) '='

/-- The text of some bytes, with padding. -/
def encodePadded : String :=
  String.ofList ((sextets bytes).map alphabet.char ++ padding (sextets bytes).length)

/-- The bytes of a padded text. -/
def decodePadded (text : String) : Option (List UInt8) :=
  let digits := text.toList.takeWhile (· ≠ '=')
  if text.toList.drop digits.length = padding digits.length then
    (digits.mapM alphabet.index).bind ofSextets
  else none

/-- **Decoding a padded byte string gives it back.** -/
theorem decodePadded_encodePadded :
    decodePadded alphabet (encodePadded alphabet bytes) = some bytes := by
  have hdigits : ∀ c ∈ (sextets bytes).map alphabet.char, decide (c ≠ '=') = true := by
    intro c hc
    obtain ⟨n, hn, rfl⟩ := List.mem_map.mp hc
    exact decide_eq_true (alphabet.char_ne n (sextets_lt bytes n hn)).1
  have hpad (n : ℕ) : (padding n).takeWhile (· ≠ '=') = [] := by
    rw [padding]
    cases (4 - n % 4) % 4 <;> rfl
  have htake : ((sextets bytes).map alphabet.char ++ padding (sextets bytes).length).takeWhile
      (· ≠ '=') = (sextets bytes).map alphabet.char := by
    rw [List.takeWhile_append_of_pos hdigits, hpad, List.append_nil]
  rw [decodePadded, encodePadded, String.toList_ofList, htake, List.length_map,
    List.drop_left' (List.length_map ..), if_pos rfl, mapM_index alphabet (sextets_lt bytes),
    Option.bind_some, ofSextets_sextets]

lemma utf8ByteSize_encode : (encode alphabet bytes).utf8ByteSize = (4 * bytes.length + 2) / 3 := by
  have hdigits (digits : List ℕ) (h : ∀ x ∈ digits, x < 64) :
      (String.ofList (digits.map alphabet.char)).utf8ByteSize = digits.length := by
    induction digits with
    | nil => rfl
    | cons x rest ih =>
      rw [List.map_cons, Utf8.utf8ByteSize_ofList_cons,
        alphabet.utf8Size_char x (h x List.mem_cons_self),
        ih fun y hy => h y (List.mem_cons_of_mem x hy), List.length_cons, Nat.add_comm]
  rw [encode, hdigits _ (sextets_lt bytes), length_sextets]

end Base64
