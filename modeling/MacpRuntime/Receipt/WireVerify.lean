import MacpRuntime.Core.Messages
import MacpRuntime.Lib.Fallible
import MacpRuntime.Receipt.CommitmentHash

/-!
Verifying a commitment hash against wire bytes: `commitment_hash.rs` (`read_varint`,
`scan_known_fields`, `commitment_hash_of_wire`, `verify_commitment_hash`).

* `Covered`: the message has no group and no field outside the label's set, at the top level or
  inside a superseded commitment;
* `scanFields_iff`: on what the decoder can read, the hand-written scanner finds the same fields;
* `wire_verification`: **the hash matches exactly if the bytes decode, are covered and have that
  hash**.
-/

namespace MacpRuntime

open Protobuf

/-- Why a hash cannot be verified. -/
inductive CannotVerify where
  | UnknownField (tag : ℕ) (inSupersedes : Bool)
  | Malformed (detail : String)
  deriving DecidableEq, Repr

/-- The result of a verification. -/
inductive VerifyOutcome where
  | Match
  | Mismatch (computed : String)
  | CannotVerify (reason : CannotVerify)
  deriving DecidableEq, Repr

namespace Commitment

/-! ### The scanner -/

/-- One base-128 number of at most ten bytes; bits beyond the 64th are lost. -/
def scanVarint : ℕ → ℕ → Bytes → Option (ℕ × Bytes)
  | _, _, [] => none
  | i, value, byte :: buf =>
    if 10 ≤ i then none
    else
      let value := value ||| ((byte.toNat % 128) <<< (7 * i)) % 2 ^ 64
      if byte.toNat < 128 then some (value, buf) else scanVarint (i + 1) value buf

/-- The value of a field by its wire type: the bytes of a length-delimited one, and what
follows. -/
def scanValue (wireType : ℕ) (buf : Bytes) : Except CannotVerify (Option Bytes × Bytes) :=
  match wireType with
  | 0 =>
    match scanVarint 0 0 buf with
    | some (_, rest) => .ok (none, rest)
    | none => .error (.Malformed "truncated varint")
  | 1 => if 8 ≤ buf.length then .ok (none, buf.drop 8) else .error (.Malformed "truncated fixed64")
  | 5 => if 4 ≤ buf.length then .ok (none, buf.drop 4) else .error (.Malformed "truncated fixed32")
  | 2 =>
    match scanVarint 0 0 buf with
    | none => .error (.Malformed "truncated length")
    | some (len, rest) =>
      if rest.length < len then .error (.Malformed "length-delimited field runs past the end")
      else .ok (some (rest.take len), rest.drop len)
  | _ => .error (.Malformed "unsupported wire type (group or reserved)")

/-- Look into the bytes of a superseded commitment. -/
def scanBody (inSupersedes : Bool) (nested : Bytes → Except CannotVerify Unit) (tag : ℕ) :
    Option Bytes → Except CannotVerify Unit
  | some body => if !inSupersedes && tag == 9 then nested body else .ok ()
  | none => .ok ()

/-- The loop of the scanner.  The numbers up to `last` are known.  The explicit number bounds the
iterations, each of which takes at least one byte. -/
def scanFields (last : ℕ) (inSupersedes : Bool) (nested : Bytes → Except CannotVerify Unit) :
    ℕ → Bytes → Except CannotVerify Unit
  | _, [] => .ok ()
  | 0, _ :: _ => .error (.Malformed "truncated field key")
  | k + 1, b :: bs =>
    match scanVarint 0 0 (b :: bs) with
    | none => .error (.Malformed "truncated field key")
    | some (key, buf) =>
      if 2 ^ 32 ≤ key / 8 then .error (.Malformed "field number overflows u32")
      else if key / 8 = 0 then .error (.Malformed "field number 0")
      else if last < key / 8 then .error (.UnknownField (key / 8) inSupersedes)
      else do
        let value ← scanValue (key % 8) buf
        scanBody inSupersedes nested (key / 8) value.1
        scanFields last inSupersedes nested k value.2

/-- The fields of a `CommitmentRef`. -/
def scanSupersedes (buf : Bytes) : Except CannotVerify Unit :=
  scanFields 2 true (fun _ => .ok ()) buf.length buf

/-- Every field must be a known one. -/
def scanKnownFields (wire : Bytes) : Except CannotVerify Unit :=
  scanFields 9 false scanSupersedes wire.length wire

/-! ### The decoder and the verification -/

variable (p : CommitmentPayload)

/-- A payload with every field at its default. -/
def emptyPayload : CommitmentPayload := ⟨"", "", "", "", "", "", "", false, none⟩

/-- `CommitmentPayload::decode`. -/
def decodeCommitment (wire : Bytes) : Option CommitmentPayload :=
  decodeMessage true (· ≤ 9) (mergeCommitment true) emptyPayload wire

/-- The fields of a superseded commitment that are written. -/
def refFields (r : CommitmentRef) : List Field :=
  textField 1 r.sessionId ++ textField 2 r.commitmentHash

/-- The fields of a payload that are written. -/
def payloadFields : List Field :=
  textField 1 p.commitmentId ++ textField 2 p.action ++ textField 3 p.authorityScope
    ++ textField 4 p.reason ++ textField 5 p.modeVersion ++ textField 6 p.policyVersion
    ++ textField 7 p.configurationVersion ++ boolField 8 p.outcomePositive
    ++ (p.supersedes.map fun r => (9, WireValue.len (writeFields (refFields r)))).toList

/-- The standard encoding: fields in order, defaults left out. -/
def encodeCommitment : Bytes := writeFields (payloadFields p)

/-- The digest and the text of the decoder's error. -/
structure Hashing where
  sha256 : Sha256
  decodeError : Bytes → String

/-- The hash of a payload's bytes. -/
def commitmentHashOfWire (h : Hashing) (wire : Bytes) : Except CannotVerify String := do
  scanKnownFields wire
  match decodeCommitment wire with
  | some p => .ok (commitmentHash h.sha256 p)
  | none => .error (.Malformed (h.decodeError wire))

/-- Lower-case hexadecimal. -/
def isLowerHex (c : Char) : Bool := ('0' ≤ c && c ≤ '9') || ('a' ≤ c && c ≤ 'f')

/-- The form of a hash. -/
def isCanonicalCommitmentHash (s : String) : Bool :=
  match Utf8.stripPrefix "sha256:" s with
  | some rest => rest.utf8ByteSize == 64 && rest.toList.all isLowerHex
  | none => false

/-- A claimed hash against the bytes. -/
def verifyCommitmentHash (h : Hashing) (wire : Bytes) (claimed : String) : VerifyOutcome :=
  match commitmentHashOfWire h wire with
  | .error reason => .CannotVerify reason
  | .ok computed =>
    if isCanonicalCommitmentHash claimed && claimed == computed then .Match
    else .Mismatch computed

/-! ### The scanner follows the decoder -/

/-- A shifted digit is added to the bits below it. -/
lemma or_shiftLeft_mod {value x i : ℕ} (hi : i < 10) (hv : value < 2 ^ (7 * i)) :
    value ||| (x <<< (7 * i)) % 2 ^ 64 = (value + x * 2 ^ (7 * i)) % 2 ^ 64 := by
  have hsplit : 2 ^ 64 = 2 ^ (64 - 7 * i) * 2 ^ (7 * i) := by
    rw [← pow_add]
    congr 1
    omega
  have hmod : x * 2 ^ (7 * i) % 2 ^ 64 = x % 2 ^ (64 - 7 * i) * 2 ^ (7 * i) := by
    rw [hsplit, Nat.mul_mod_mul_right]
  have hlt : value + x % 2 ^ (64 - 7 * i) * 2 ^ (7 * i) < 2 ^ 64 := by
    have hx : x % 2 ^ (64 - 7 * i) + 1 ≤ 2 ^ (64 - 7 * i) :=
      Nat.mod_lt _ (Nat.two_pow_pos _)
    have hle := Nat.mul_le_mul_right (2 ^ (7 * i)) hx
    rw [← hsplit, Nat.succ_mul] at hle
    omega
  rw [← Nat.add_mod_mod, Nat.shiftLeft_eq, hmod, Nat.mod_eq_of_lt hlt, ← Nat.shiftLeft_eq,
    Nat.or_comm, ← Nat.shiftLeft_add_eq_or_of_lt hv, Nat.add_comm]

variable {bs rest wire : Bytes} {num : ℕ} {fields : List (ℕ × Value)} {p : CommitmentPayload}
  {f : Field}

/-- The digits that the decoder reads, from any position on. -/
lemma scanVarint_of_readDigits {k i value n : ℕ} (hk : k + i = 10) (hv : value < 2 ^ (7 * i))
    (h : readDigits (some k) bs = some (n, rest)) :
    scanVarint i value bs = some ((value + n * 2 ^ (7 * i)) % 2 ^ 64, rest) := by
  induction bs generalizing i k value n with
  | nil => cases h
  | cons b bs ih =>
    obtain _ | k := k
    · cases h
    rw [readDigits, if_neg (by simp), Option.map_some, Nat.pred_succ] at h
    have hb := b.toNat_lt
    have hpow : 2 ^ (7 * (i + 1)) = 128 * 2 ^ (7 * i) := by
      rw [Nat.mul_succ, pow_add]
      omega
    have hvalue : (value + b.toNat % 128 * 2 ^ (7 * i)) % 2 ^ 64 < 2 ^ (7 * (i + 1)) := by
      have hmod := Nat.mod_le (value + b.toNat % 128 * 2 ^ (7 * i)) (2 ^ 64)
      have hdigit : b.toNat % 128 * 2 ^ (7 * i) ≤ 127 * 2 ^ (7 * i) :=
        Nat.mul_le_mul_right _ (by omega)
      omega
    rw [scanVarint, if_neg (by omega)]
    dsimp only
    rw [or_shiftLeft_mod (by omega) hv]
    split at h
    · next hlt =>
        obtain ⟨rfl, rfl⟩ := Prod.mk.inj (Option.some.inj h)
        rw [if_pos hlt, Nat.mod_eq_of_lt hlt]
    · next hlt =>
        rw [if_neg hlt]
        obtain ⟨⟨m, rest'⟩, hm, heq⟩ := Option.map_eq_some_iff.mp h
        obtain ⟨rfl, rfl⟩ := Prod.mk.inj heq
        have hdigit : b.toNat % 128 = b.toNat - 128 := by omega
        rw [ih (by omega) hvalue hm, Nat.mod_add_mod, hpow, hdigit]
        congr 3
        ring

/-- A varint of the decoder is the scanner's. -/
lemma scanVarint_of_readVarint {n : ℕ} (h : readVarint true bs = some (n, rest)) :
    scanVarint 0 0 bs = some (n, rest) := by
  obtain ⟨hdigits, hlt⟩ := readVarint_eq_some.mp h
  rw [scanVarint_of_readDigits (k := 10) rfl (by decide) hdigits, Nat.zero_add, Nat.mul_zero,
    pow_zero, Nat.mul_one, Nat.mod_eq_of_lt hlt]

/-- The bytes of a length-delimited value. -/
def lenBytes : WireValue → Option Bytes
  | .len bytes => some bytes
  | _ => none

lemma takeExact_eq_some {n : ℕ} {xs : Bytes} :
    takeExact n bs = some (xs, rest) ↔ n ≤ bs.length ∧ xs = bs.take n ∧ rest = bs.drop n := by
  rw [takeExact]
  split
  · next h =>
      rw [Option.some.injEq, Prod.mk.injEq]
      exact ⟨fun heq => ⟨h, heq.1.symm, heq.2.symm⟩, fun heq => ⟨heq.2.1.symm, heq.2.2.symm⟩⟩
  · next h => exact ⟨fun heq => (by cases heq), fun heq => absurd heq.1 h⟩

/-- A value of the decoder is the scanner's. -/
lemma scanValue_of_readScalar {wireType : ℕ} {v : WireValue}
    (h : readScalar true wireType bs = some (v, rest)) :
    scanValue wireType bs = .ok (lenBytes v, rest) := by
  unfold readScalar at h
  split at h
  · obtain ⟨⟨n, rest'⟩, hn, heq⟩ := Option.map_eq_some_iff.mp h
    obtain ⟨rfl, rfl⟩ := Prod.mk.inj heq
    rw [scanValue, scanVarint_of_readVarint hn]
    rfl
  · obtain ⟨⟨xs, rest'⟩, hxs, heq⟩ := Option.map_eq_some_iff.mp h
    obtain ⟨rfl, rfl⟩ := Prod.mk.inj heq
    obtain ⟨hlen, rfl, rfl⟩ := takeExact_eq_some.mp hxs
    rw [scanValue, if_pos hlen]
    rfl
  · obtain ⟨⟨n, buf⟩, hn, hbind⟩ := Option.bind_eq_some_iff.mp h
    obtain ⟨⟨xs, rest'⟩, hxs, heq⟩ := Option.map_eq_some_iff.mp hbind
    obtain ⟨rfl, rfl⟩ := Prod.mk.inj heq
    obtain ⟨hlen, rfl, rfl⟩ := takeExact_eq_some.mp hxs
    rw [scanValue, scanVarint_of_readVarint hn]
    dsimp only at hlen ⊢
    rw [if_neg (by omega)]
    rfl
  · obtain ⟨⟨xs, rest'⟩, hxs, heq⟩ := Option.map_eq_some_iff.mp h
    obtain ⟨rfl, rfl⟩ := Prod.mk.inj heq
    obtain ⟨hlen, rfl, rfl⟩ := takeExact_eq_some.mp hxs
    rw [scanValue, if_pos hlen]
    rfl
  · cases h

/-- What the scanner requires of a field. -/
def Scanned (last : ℕ) (inSupersedes : Bool) (nested : Bytes → Except CannotVerify Unit)
    (f : ℕ × Value) : Prop :=
  f.1 ≤ last ∧ ∃ v, f.2 = .scalar v ∧ scanBody inSupersedes nested f.1 (lenBytes v) = .ok ()

/-- A key that the decoder reads. -/
lemma readKey_eq_some {wireType : ℕ} (h : readKey true bs = some ((num, wireType), rest)) :
    ∃ key, scanVarint 0 0 bs = some (key, rest) ∧ key / 8 = num ∧ key % 8 = wireType
      ∧ key / 8 < 2 ^ 32 ∧ 1 ≤ key / 8 := by
  obtain ⟨⟨key, rest'⟩, hfilter, heq⟩ := Option.map_eq_some_iff.mp h
  obtain ⟨hkey, hbound⟩ := Option.filter_eq_some_iff.mp hfilter
  obtain ⟨hnums, rfl⟩ := Prod.mk.inj heq
  obtain ⟨rfl, rfl⟩ := Prod.mk.inj hnums
  have hb := of_decide_eq_true hbound
  exact ⟨key, scanVarint_of_readVarint hkey, rfl, rfl, by omega, hb.2⟩

/-- On fields that the decoder reads, the scanner checks each of them. -/
lemma scanFields_iff {last : ℕ} {inSupersedes : Bool} {nested : Bytes → Except CannotVerify Unit}
    {k : ℕ} (h : readFieldsAux true k bs = some fields) :
    scanFields last inSupersedes nested k bs = .ok ()
      ↔ ∀ f ∈ fields, Scanned last inSupersedes nested f := by
  induction k generalizing bs fields with
  | zero =>
    cases bs with
    | nil =>
      obtain rfl := Option.some.inj h
      exact ⟨fun _ _ hf => absurd hf List.not_mem_nil, fun _ => rfl⟩
    | cons b bs => cases h
  | succ k ih =>
    cases bs with
    | nil =>
      obtain rfl := Option.some.inj h
      exact ⟨fun _ _ hf => absurd hf List.not_mem_nil, fun _ => rfl⟩
    | cons b bs =>
      obtain ⟨⟨f, rest⟩, hfield, hmap⟩ := Option.bind_eq_some_iff.mp h
      obtain ⟨fs, hrest, rfl⟩ := Option.map_eq_some_iff.mp hmap
      obtain ⟨⟨⟨num, wireType⟩, buf⟩, hreadKey, hvalue⟩ := Option.bind_eq_some_iff.mp hfield
      obtain ⟨key, hscan, rfl, rfl, hlt, hpos⟩ := readKey_eq_some hreadKey
      rw [List.forall_mem_cons, ← ih hrest, scanFields, hscan]
      dsimp only at hvalue ⊢
      rw [if_neg (by omega), if_neg (by omega)]
      by_cases hgroup : key % 8 = 3
      · -- the scanner refuses every group
        rw [if_pos hgroup] at hvalue
        obtain ⟨rest', _, heq⟩ := Option.map_eq_some_iff.mp hvalue
        obtain ⟨rfl, rfl⟩ := Prod.mk.inj heq
        rw [hgroup, Scanned]
        constructor
        · intro herr
          split at herr <;> cases herr
        · rintro ⟨⟨-, v, hv, -⟩, -⟩
          cases hv
      · rw [if_neg hgroup] at hvalue
        obtain ⟨⟨v, rest'⟩, hscalar, heq⟩ := Option.map_eq_some_iff.mp hvalue
        obtain ⟨rfl, rfl⟩ := Prod.mk.inj heq
        have hscanned : Scanned last inSupersedes nested (key / 8, .scalar v)
            ↔ key / 8 ≤ last
              ∧ scanBody inSupersedes nested (key / 8) (lenBytes v) = .ok () := by
          refine and_congr_right' ⟨?_, fun hbody => ⟨v, rfl, hbody⟩⟩
          rintro ⟨v', hv', hbody⟩
          rw [Value.scalar.inj hv']
          exact hbody
        rw [hscanned, scanValue_of_readScalar hscalar]
        by_cases hlast : last < key / 8
        · rw [if_pos hlast]
          exact ⟨fun herr => (by cases herr), fun hall => absurd hall.1.1 (by omega)⟩
        · rw [if_neg hlast, Except.bind_eq_ok_iff]
          constructor
          · rintro ⟨value, hvalue, hseq⟩
            obtain rfl := Except.ok.inj hvalue
            obtain ⟨_, hbody, hfields⟩ := Except.bind_eq_ok_iff.mp hseq
            exact ⟨⟨by omega, hbody⟩, hfields⟩
          · rintro ⟨⟨-, hbody⟩, hfields⟩
            exact ⟨_, rfl, Except.bind_eq_ok_iff.mpr ⟨(), hbody, hfields⟩⟩

/-! ### Covered messages -/

/-- A field of a known number that is not a group. -/
def Known (last : ℕ) (f : ℕ × Value) : Prop := 1 ≤ f.1 ∧ f.1 ≤ last ∧ f.2 ≠ .group

/-- Every field of a message is known. -/
def AllKnown (last : ℕ) (bytes : Bytes) : Prop :=
  ∃ fields, readFields true bytes = some fields ∧ ∀ f ∈ fields, Known last f

/-- The message has no group and no field outside the label's set, nor has any superseded
commitment in it. -/
def Covered (wire : Bytes) : Prop :=
  ∃ fields, readFields true wire = some fields
    ∧ ∀ f ∈ fields, Known 9 f ∧ ∀ bytes, f = (9, .scalar (.len bytes)) → AllKnown 2 bytes

lemma readFieldsAux_pos {k : ℕ} (h : readFieldsAux true k bs = some fields) :
    ∀ f ∈ fields, 1 ≤ f.1 := by
  induction k generalizing bs fields with
  | zero =>
    cases bs with
    | nil =>
      obtain rfl := Option.some.inj h
      exact fun _ hf => absurd hf List.not_mem_nil
    | cons b bs => cases h
  | succ k ih =>
    cases bs with
    | nil =>
      obtain rfl := Option.some.inj h
      exact fun _ hf => absurd hf List.not_mem_nil
    | cons b bs =>
      obtain ⟨⟨f, rest⟩, hfield, hmap⟩ := Option.bind_eq_some_iff.mp h
      obtain ⟨fs, hrest, rfl⟩ := Option.map_eq_some_iff.mp hmap
      refine List.forall_mem_cons.mpr ⟨?_, ih hrest⟩
      obtain ⟨⟨⟨num, wireType⟩, buf⟩, hreadKey, hvalue⟩ := Option.bind_eq_some_iff.mp hfield
      obtain ⟨_, _, rfl, _, _, hpos⟩ := readKey_eq_some hreadKey
      dsimp only at hvalue
      split at hvalue <;>
        (obtain ⟨_, _, heq⟩ := Option.map_eq_some_iff.mp hvalue
         obtain ⟨rfl, _⟩ := Prod.mk.inj heq
         exact hpos)

/-- A scanned field of a superseded commitment is a known one. -/
lemma scanned_inner_iff {f : ℕ × Value} (hpos : 1 ≤ f.1) :
    Scanned 2 true (fun _ => .ok ()) f ↔ Known 2 f := by
  obtain ⟨num, v⟩ := f
  cases v with
  | scalar v =>
    refine ⟨fun h => ⟨hpos, h.1, fun hg => by cases hg⟩, fun h => ⟨h.2.1, v, rfl, ?_⟩⟩
    cases v <;> rfl
  | group =>
    refine ⟨?_, fun h => absurd rfl h.2.2⟩
    rintro ⟨-, v, hv, -⟩
    cases hv

lemma scanSupersedes_iff {bytes : Bytes} (h : readFields true bytes = some fields) :
    scanSupersedes bytes = .ok () ↔ AllKnown 2 bytes := by
  have hpos := readFieldsAux_pos h
  rw [scanSupersedes, scanFields_iff h, AllKnown]
  constructor
  · intro hall
    exact ⟨fields, h, fun f hf => (scanned_inner_iff (hpos f hf)).mp (hall f hf)⟩
  · rintro ⟨fields', h', hall⟩ f hf
    rw [h] at h'
    obtain rfl := Option.some.inj h'
    exact (scanned_inner_iff (hpos f hf)).mpr (hall f hf)

/-- Each field of a merged list was merged. -/
lemma exists_merge_of_foldlM {α β : Type} {merge : α → β → Option α} {a b : α} {fs : List β}
    (h : fs.foldlM merge a = some b) : ∀ f ∈ fs, ∃ c d, merge c f = some d := by
  induction fs generalizing a with
  | nil => exact fun _ hf => absurd hf List.not_mem_nil
  | cons g fs ih =>
    rw [List.foldlM_cons] at h
    obtain ⟨c, hc, hrest⟩ := Option.bind_eq_some_iff.mp h
    exact List.forall_mem_cons.mpr ⟨⟨a, c, hc⟩, ih hrest⟩

/-- The superseded commitments of a decoded message can be read themselves. -/
lemma readFields_of_decoded {bytes : Bytes} (hread : readFields true wire = some fields)
    (hdecode : decodeCommitment wire = some p) (hmem : (9, .scalar (.len bytes)) ∈ fields) :
    ∃ inner, readFields true bytes = some inner := by
  rw [decodeCommitment, decodeMessage, hread, Option.bind_some] at hdecode
  obtain ⟨q, _, hmerge⟩ := exists_merge_of_foldlM hdecode _ hmem
  obtain ⟨r, hr, _⟩ := Option.bind_eq_some_iff.mp hmerge
  obtain ⟨inner, hinner, _⟩ := Option.bind_eq_some_iff.mp hr
  exact ⟨inner, hinner⟩

/-- On a message that decodes, the scanner accepts exactly the covered ones. -/
lemma scanKnownFields_iff (hdecode : decodeCommitment wire = some p) :
    scanKnownFields wire = .ok () ↔ Covered wire := by
  obtain ⟨fields, hread, _⟩ := Option.bind_eq_some_iff.mp hdecode
  have hpos := readFieldsAux_pos hread
  have hfield (f : ℕ × Value) (hf : f ∈ fields) : Scanned 9 false scanSupersedes f
      ↔ Known 9 f ∧ ∀ bytes, f = (9, .scalar (.len bytes)) → AllKnown 2 bytes := by
    constructor
    · rintro ⟨hle, v, hv, hbody⟩
      refine ⟨⟨hpos f hf, hle, by rw [hv]; exact Value.noConfusion⟩, ?_⟩
      rintro bytes rfl
      obtain rfl := Value.scalar.inj hv
      obtain ⟨inner, hinner⟩ := readFields_of_decoded hread hdecode hf
      exact (scanSupersedes_iff hinner).mp hbody
    · rintro ⟨⟨_, hle, hgroup⟩, hnested⟩
      obtain ⟨num, value⟩ := f
      cases value with
      | group => exact absurd rfl hgroup
      | scalar v =>
        refine ⟨hle, v, rfl, ?_⟩
        cases v with
        | len bytes =>
          rw [lenBytes, scanBody]
          split
          · next hnine =>
              obtain rfl : num = 9 := by simpa using hnine
              obtain ⟨inner, hinner⟩ := readFields_of_decoded hread hdecode hf
              exact (scanSupersedes_iff hinner).mpr (hnested bytes rfl)
          · rfl
        | _ => rfl
  rw [scanKnownFields, scanFields_iff hread, Covered]
  constructor
  · intro hall
    exact ⟨fields, hread, fun f hf => (hfield f hf).mp (hall f hf)⟩
  · rintro ⟨fields', hread', hall⟩ f hf
    rw [hread] at hread'
    obtain rfl := Option.some.inj hread'
    exact (hfield f hf).mpr (hall f hf)

/-! ### Verification -/

lemma hexByte_isLowerHex (b : UInt8) : ∀ c ∈ hexByte b, isLowerHex c = true ∧ c.utf8Size = 1 := by
  have h (n : ℕ) (hn : n < 16) :
      isLowerHex (Json.hexDigit n) = true ∧ (Json.hexDigit n).utf8Size = 1 := by
    interval_cases n <;> exact ⟨by decide, by decide⟩
  have hb := b.toNat_lt
  intro c hc
  rw [hexByte, List.mem_cons, List.mem_singleton] at hc
  rcases hc with rfl | rfl
  · exact h _ (by omega)
  · exact h _ (by omega)

/-- The hexadecimal text of some bytes. -/
lemma hexText (bytes : List UInt8) :
    (bytes.flatMap hexByte).all isLowerHex = true
      ∧ (String.ofList (bytes.flatMap hexByte)).utf8ByteSize = 2 * bytes.length := by
  induction bytes with
  | nil => exact ⟨rfl, rfl⟩
  | cons b bytes ih =>
    have hb := hexByte_isLowerHex b
    have hhigh := hb (Json.hexDigit (b.toNat / 16)) List.mem_cons_self
    have hlow := hb (Json.hexDigit (b.toNat % 16)) (List.mem_cons_of_mem _ List.mem_cons_self)
    have hsplit : (b :: bytes).flatMap hexByte = Json.hexDigit (b.toNat / 16)
        :: Json.hexDigit (b.toNat % 16) :: bytes.flatMap hexByte := rfl
    rw [hsplit, List.all_cons, List.all_cons, hhigh.1, hlow.1, ih.1,
      Utf8.utf8ByteSize_ofList_cons, Utf8.utf8ByteSize_ofList_cons, hhigh.2, hlow.2, ih.2,
      List.length_cons]
    exact ⟨rfl, by omega⟩

/-- A computed hash has the canonical form. -/
lemma isCanonical_commitmentHash (sha256 : Sha256) (p : CommitmentPayload) :
    isCanonicalCommitmentHash (commitmentHash sha256 p) = true := by
  obtain ⟨hall, hsize⟩ := hexText (sha256 (preimage p)).toList
  have happend : commitmentHash sha256 p
      = "sha256:" ++ String.ofList ((sha256 (preimage p)).toList.flatMap hexByte) := by
    unfold commitmentHash
    rw [String.ofList_append, String.ofList_toList]
  rw [isCanonicalCommitmentHash, happend, Utf8.stripPrefix_append]
  dsimp only
  rw [hsize, Vector.length_toList, String.toList_ofList, hall]
  rfl

/-- The hash of wire bytes is that of a covered payload. -/
lemma commitmentHashOfWire_eq_ok {h : Hashing} {computed : String} :
    commitmentHashOfWire h wire = .ok computed
      ↔ ∃ p, decodeCommitment wire = some p ∧ Covered wire
          ∧ computed = commitmentHash h.sha256 p := by
  rw [commitmentHashOfWire, Except.bind_eq_ok_iff]
  constructor
  · rintro ⟨_, hscan, hhash⟩
    cases hdecode : decodeCommitment wire with
    | none =>
      rw [hdecode] at hhash
      cases hhash
    | some p =>
      rw [hdecode] at hhash
      exact ⟨p, rfl, (scanKnownFields_iff hdecode).mp hscan, (Except.ok.inj hhash).symm⟩
  · rintro ⟨p, hdecode, hcovered, rfl⟩
    exact ⟨(), (scanKnownFields_iff hdecode).mpr hcovered, by rw [hdecode]⟩

/-- A match is the hash of a covered payload. -/
lemma verify_match_iff (h : Hashing) (wire : Bytes) (claimed : String) :
    verifyCommitmentHash h wire claimed = .Match
      ↔ ∃ p, decodeCommitment wire = some p ∧ Covered wire
          ∧ claimed = commitmentHash h.sha256 p := by
  rw [← commitmentHashOfWire_eq_ok, verifyCommitmentHash]
  cases hhash : commitmentHashOfWire h wire with
  | error reason => exact ⟨fun h => (by cases h), fun h => (by cases h)⟩
  | ok computed =>
    obtain ⟨p, -, -, hp⟩ := commitmentHashOfWire_eq_ok.mp hhash
    dsimp only
    split
    · next hif =>
        rw [Bool.and_eq_true, beq_iff_eq] at hif
        exact ⟨fun _ => by rw [hif.2], fun _ => rfl⟩
    · next hif =>
        refine ⟨fun h => (by cases h), fun heq => ?_⟩
        obtain rfl := Except.ok.inj heq
        rw [hp, isCanonical_commitmentHash, beq_self_eq_true] at hif
        exact absurd rfl hif

/-! ### The standard encoding -/

lemma mem_refFields {r : CommitmentRef} (h : f ∈ refFields r) : 1 ≤ f.1 ∧ f.1 ≤ 2 ∧ Standard f := by
  rcases List.mem_append.mp h with h | h
  · obtain ⟨hnum, hstd⟩ := mem_textField h
    exact ⟨by omega, by omega, hstd⟩
  · obtain ⟨hnum, hstd⟩ := mem_textField h
    exact ⟨by omega, by omega, hstd⟩

/-- A field of a payload is one of the first eight or the superseded commitment. -/
lemma mem_payloadFields (h : f ∈ payloadFields p) :
    (1 ≤ f.1 ∧ f.1 ≤ 8 ∧ Standard f)
      ∨ ∃ r, p.supersedes = some r ∧ f = (9, .len (writeFields (refFields r))) := by
  rcases List.mem_append.mp h with h | h
  · left
    rcases List.mem_append.mp h with h | h
    · simp only [List.mem_append] at h
      rcases h with (((((h | h) | h) | h) | h) | h) | h <;>
        (obtain ⟨hnum, hstd⟩ := mem_textField h
         exact ⟨by omega, by omega, hstd⟩)
    · obtain ⟨hnum, hstd⟩ := mem_boolField h
      exact ⟨by omega, by omega, hstd⟩
  · right
    rw [Option.mem_toList, Option.map_eq_some_iff] at h
    obtain ⟨r, hr, hf⟩ := h
    exact ⟨r, hr, hf.symm⟩

lemma length_writeField_le {fs : List Field} (h : f ∈ fs) :
    (writeField f).length ≤ (writeFields fs).length := by
  obtain ⟨front, back, rfl⟩ := List.append_of_mem h
  rw [writeFields, List.flatMap_append, List.flatMap_cons, List.length_append,
    List.length_append]
  omega

section Fits

variable {p : CommitmentPayload} (hsize : (encodeCommitment p).length < 2 ^ 64)

include hsize

lemma writable_payloadFields : ∀ f ∈ payloadFields p, Writable true f := by
  intro f hf
  have hlen : (writeField f).length < 2 ^ 64 := lt_of_le_of_lt (length_writeField_le hf) hsize
  rcases mem_payloadFields hf with ⟨hpos, hnum, hstd⟩ | ⟨r, _, rfl⟩
  · exact hstd.writable hpos (by omega) fun _ => hlen
  · exact Standard.writable (Or.inl ⟨_, rfl⟩) (by norm_num) (by norm_num) fun _ => hlen

variable {r : CommitmentRef}

lemma writable_refFields (hr : p.supersedes = some r) : ∀ f ∈ refFields r, Writable true f := by
  intro f hf
  obtain ⟨hpos, hnum, hstd⟩ := mem_refFields hf
  have hmem : (9, .len (writeFields (refFields r))) ∈ payloadFields p := by
    rw [payloadFields, hr]
    exact List.mem_append_right _ List.mem_cons_self
  have hbytes := (writable_payloadFields hsize _ hmem).2.2 rfl
  exact hstd.writable hpos (by omega) fun _ => lt_of_le_of_lt (length_writeField_le hf) hbytes

lemma covered_encodeCommitment : Covered (encodeCommitment p) := by
  refine ⟨_, readFields_writeFields (writable_payloadFields hsize), ?_⟩
  intro f hf
  obtain ⟨g, hg, rfl⟩ := List.mem_map.mp hf
  rcases mem_payloadFields hg with ⟨hpos, hnum, _⟩ | ⟨r, hr, rfl⟩
  · refine ⟨⟨hpos, by dsimp only; omega, Value.noConfusion⟩, ?_⟩
    intro bytes hnine
    have := congrArg Prod.fst hnine
    dsimp only at this
    omega
  · refine ⟨⟨by norm_num, by norm_num, Value.noConfusion⟩, ?_⟩
    intro bytes hbytes
    obtain rfl := WireValue.len.inj (Value.scalar.inj (congrArg Prod.snd hbytes))
    refine ⟨_, readFields_writeFields (writable_refFields hsize hr), ?_⟩
    intro f hf
    obtain ⟨g, hg, rfl⟩ := List.mem_map.mp hf
    obtain ⟨hpos, hnum, _⟩ := mem_refFields hg
    exact ⟨hpos, hnum, Value.noConfusion⟩

lemma decodeMessage_refFields (hr : p.supersedes = some r) :
    decodeMessage true (· ≤ 2) mergeCommitmentRef ⟨"", ""⟩ (writeFields (refFields r))
      = some r := by
  rw [decodeMessage_writeFields (writable_refFields hsize hr), refFields, List.foldlM_append,
    Option.bind_eq_bind, foldlM_textField (by exact fun _ => rfl) (by rfl), Option.bind_some,
    foldlM_textField (by exact fun _ => rfl) (by rfl)]

/-- The standard encoding decodes to the payload. -/
lemma decodeCommitment_encodeCommitment : decodeCommitment (encodeCommitment p) = some p := by
  have hflag (q : CommitmentPayload) (hq : q.outcomePositive = false) :
      (boolField 8 p.outcomePositive).foldlM (mergeCommitment true) q
        = some { q with outcomePositive := p.outcomePositive } := by
    cases hp : p.outcomePositive with
    | false => exact congrArg some (by rw [← hq])
    | true => rfl
  have href (q : CommitmentPayload) (hq : q.supersedes = none) :
      (p.supersedes.map fun r => (9, WireValue.len (writeFields (refFields r)))).toList.foldlM
        (mergeCommitment true) q = some { q with supersedes := p.supersedes } := by
    cases hr : p.supersedes with
    | none => exact congrArg some (by rw [← hq])
    | some r =>
      simp only [Option.map_some, Option.toList_some, List.foldlM_cons, mergeCommitment, hq,
        WireValue.asBytes, Option.getD_none, Option.bind_eq_bind, Option.bind_some,
        decodeMessage_refFields hsize hr, List.foldlM_nil]
      rfl
  rw [decodeCommitment, encodeCommitment,
    decodeMessage_writeFields (writable_payloadFields hsize), payloadFields, emptyPayload]
  simp only [List.foldlM_append, Option.bind_eq_bind]
  iterate 7 rw [foldlM_textField (by exact fun _ => rfl) (by rfl), Option.bind_some]
  rw [hflag _ rfl, Option.bind_some, href _ rfl]

end Fits

/-- **Wire verification is exact.**  A hash matches exactly if the bytes decode to a payload, are
covered by the label and have that hash; bytes that are not covered are never compared; and the
standard encoding of a payload matches its hash. -/
theorem wire_verification (h : Hashing) :
    (∀ wire claimed, verifyCommitmentHash h wire claimed = .Match
      ↔ ∃ p, decodeCommitment wire = some p ∧ Covered wire
          ∧ claimed = commitmentHash h.sha256 p)
    ∧ (∀ wire claimed, ¬ Covered wire →
        ∃ reason, verifyCommitmentHash h wire claimed = .CannotVerify reason)
    ∧ ∀ p, (encodeCommitment p).length < 2 ^ 64 →
        verifyCommitmentHash h (encodeCommitment p) (commitmentHash h.sha256 p) = .Match := by
  refine ⟨verify_match_iff h, ?_, ?_⟩
  · intro wire claimed hcovered
    cases hhash : commitmentHashOfWire h wire with
    | error reason => exact ⟨reason, by rw [verifyCommitmentHash, hhash]⟩
    | ok computed =>
      obtain ⟨_, _, hcov, _⟩ := commitmentHashOfWire_eq_ok.mp hhash
      exact absurd hcov hcovered
  · intro p hsize
    exact (verify_match_iff h _ _).mpr
      ⟨p, decodeCommitment_encodeCommitment hsize, covered_encodeCommitment hsize, rfl⟩

end Commitment

end MacpRuntime
