import MacpRuntime.Lib.Base64
import MacpRuntime.Lib.Serde
import MacpRuntime.Receipt.WireVerify

/-!
Verifying a receipt: `receipt/verify.rs`.  The digest, the JSON reader and Ed25519 are parameters;
`receiptBody` is the canonical bytes without the attestations, which is what is signed, and the
outcome of an attestation depends on nothing else of the receipt (`verify_attestations`).
-/

namespace MacpRuntime.Receipt

open Json
open Serde (text flag)

/-- Third-party parts.  The reader reads back what was written without floats; a signature has 64
bytes and verifies under its own key, and a public key has 32, which are a point of the curve. -/
structure Libraries where
  numbers : Jcs.Numbers
  hashing : Commitment.Hashing
  fromSlice : Bytes → Option Json
  fromSlice_toVec : ∀ v : Json, v.Integral → Jcs.Keyed v → fromSlice (toVec v) = some v
  SigningKey : Type
  publicKey : SigningKey → Bytes
  isPoint : Bytes → Bool
  sign : SigningKey → Bytes → Bytes
  verifyStrict : Bytes → Bytes → Bytes → Bool
  length_publicKey : ∀ k, (publicKey k).length = 32
  isPoint_publicKey : ∀ k, isPoint (publicKey k) = true
  length_sign : ∀ k m, (sign k m).length = 64
  verifyStrict_sign : ∀ k m, verifyStrict (publicKey k) m (sign k m) = true

/-- `FORMAT`. -/
def format : String := "macp-receipt/1"

/-- Whether a receipt holds together. -/
inductive Integrity where
  | Match
  | Mismatch
  | CannotVerify
  deriving DecidableEq, Repr

/-- What an attestation is worth. -/
inductive AttestationOutcome where
  | Valid
  | Invalid
  | UnknownKey
  | Unsupported
  deriving DecidableEq, Repr

/-- What a verifier concludes. -/
inductive Verdict where
  | Attested
  | IntegrityOnly
  | Unverified
  | Refused
  deriving DecidableEq, Repr

/-- The verdict with its grounds. -/
structure Verification where
  integrity : Option Integrity
  attestations : List AttestationOutcome
  verdict : Verdict
  deriving DecidableEq, Repr

/-- Trusted keys by `kid`, as base64url texts. -/
abbrev TrustedKeys := Std.ExtTreeMap String String

/-- The items of an array. -/
def asArray : Json → Option (List Json)
  | .array items => some items
  | _ => none

/-- The members of an object. -/
def asObject : Json → Option (List (String × Json))
  | .object members => some members
  | _ => none

/-! ### Integrity -/

/-- The text members of a commitment. -/
def stringFields : List String :=
  ["commitment_id", "action", "authority_scope", "reason", "mode_version", "policy_version",
    "configuration_version"]

variable (members : List (String × Json))

/-- A text member, empty when it is absent. -/
def stringMember (key : String) : Option String :=
  match members.lookup key with
  | none => some ""
  | some v => text v

/-- A reference to a commitment. -/
def refOf : Option CommitmentRef :=
  if members.all fun m => m.1 == "session_id" || m.1 == "commitment_hash" then do
    some ⟨← stringMember members "session_id", ← stringMember members "commitment_hash"⟩
  else none

/-- What is superseded, if anything. -/
def supersedesOf : Option (Option CommitmentRef) :=
  match members.lookup "supersedes" with
  | none => some none
  | some v => ((asObject v).bind refOf).map some

/-- The outcome, by default `false`. -/
def outcomeOf : Option Bool :=
  match members.lookup "outcome_positive" with
  | none => some false
  | some v => flag v

/-- The payload a projection stands for, with defaults for what is absent. -/
def payloadOf (commitment : Json) : Option CommitmentPayload := do
  let obj ← asObject commitment
  if obj.all fun m => stringFields.contains m.1 || m.1 == "outcome_positive"
      || m.1 == "supersedes" then do
    let supersedes ← supersedesOf obj
    some {
      commitmentId := ← stringMember obj "commitment_id"
      action := ← stringMember obj "action"
      authorityScope := ← stringMember obj "authority_scope"
      reason := ← stringMember obj "reason"
      modeVersion := ← stringMember obj "mode_version"
      policyVersion := ← stringMember obj "policy_version"
      configurationVersion := ← stringMember obj "configuration_version"
      outcomePositive := ← outcomeOf obj
      supersedes := supersedes }
  else none

variable (libs : Libraries)

/-- The wire bytes, when the receipt carries any, hash to the claim and are the commitment
shown. -/
def wireIntegrity (commitment : Json) (claimed : String) : Option Json → Integrity
  | none => .Match
  | some v =>
    match (text v).bind (Base64.decodePadded Base64.standard) with
    | none => .CannotVerify
    | some wire =>
      match Commitment.verifyCommitmentHash libs.hashing wire claimed with
      | .Match =>
        match Commitment.decodeCommitment wire with
        | some decoded =>
          if Commitment.project decoded = commitment then .Match else .Mismatch
        | none => .CannotVerify
      | .Mismatch _ => .Mismatch
      | .CannotVerify _ => .CannotVerify

/-- The integrity of a receipt by the three members it is about. -/
def integrityOf (commitment hash wire : Option Json) : Integrity :=
  match commitment with
  | none => .CannotVerify
  | some commitment =>
    match payloadOf commitment with
    | none => .CannotVerify
    | some payload =>
      let claimed := hash.bind text
      if claimed ≠ some (Commitment.commitmentHash libs.hashing.sha256 payload) then .Mismatch
      else wireIntegrity libs commitment (claimed.getD "") wire

variable (receipt : Json)

/-- The integrity of a receipt. -/
def integrity : Integrity :=
  integrityOf libs (receipt.get? "commitment") (receipt.get? "commitment_hash")
    (receipt.get? "commitment_wire_b64")

/-! ### Attestations -/

/-- A member that belongs to the body. -/
def isBodyKey (key : String) : Bool := key != "attestations"

/-- The members without the attestations. -/
def withoutAttestations (members : List (String × Json)) : List (String × Json) :=
  members.filter fun m => isBodyKey m.1

/-- The bytes that are signed. -/
def receiptBody : Option Bytes := do
  let members ← asObject receipt
  Jcs.canonicalize libs.numbers (.object (withoutAttestations members))

/-- What a signature covers: the header and the body, both in base64url, with a dot between. -/
def signingInput (header : List Char) (body : Bytes) : Bytes :=
  Utf8.encode (String.ofList (header ++ '.' :: (Base64.encode Base64.urlSafe body).toList))

/-- The bytes of a key. -/
def verifyingKey (x : String) : Option Bytes :=
  (Base64.decode Base64.urlSafe x).filter fun bytes =>
    bytes.length == 32 && libs.isPoint bytes

/-- The check of a signature under a trusted key. -/
def checkSignature (header : List Char) (signature : Bytes)
    (body : Option Bytes) (x : String) : AttestationOutcome :=
  match body, verifyingKey libs x with
  | some body, some key =>
    if signature.length = 64 ∧ libs.verifyStrict key (signingInput header body) signature = true
    then .Valid else .Invalid
  | _, _ => .Invalid

/-- A detached signature by its parts, the header and the signature in base64url. -/
def detached (header sig : List Char) (body : Option Bytes)
    (trusted : TrustedKeys) : AttestationOutcome :=
  match (Base64.decode Base64.urlSafe (String.ofList header)).bind libs.fromSlice,
    Base64.decode Base64.urlSafe (String.ofList sig) with
  | some value, some signature =>
    if (value.get? "alg").bind text ≠ some "EdDSA" then .Unsupported
    else
      match ((value.get? "kid").bind text).bind fun kid => trusted[kid]? with
      | none => .UnknownKey
      | some x => checkSignature libs header signature body x
  | _, _ => .Invalid

/-- The outcome of one attestation. -/
def attestation (att : Json) (body : Option Bytes) (trusted : TrustedKeys) : AttestationOutcome :=
  if (att.get? "type").bind text ≠ some "jws" then .Unsupported
  else
    match (((att.get? "jws").bind text).getD "").toList.splitOn '.' with
    | [header, [], sig] => detached libs header sig body trusted
    | _ => .Invalid

/-- The verdict on a receipt, under the trusted keys. -/
def verify (trusted : TrustedKeys) : Verification :=
  if (receipt.get? "receipt_format").bind text ≠ some format then ⟨none, [], .Refused⟩
  else if integrity libs receipt ≠ .Match then ⟨some (integrity libs receipt), [], .Unverified⟩
  else
    let body := receiptBody libs receipt
    let attestations := (((receipt.get? "attestations").bind asArray).getD []).map fun a =>
      attestation libs a body trusted
    ⟨some .Match, attestations,
      if attestations.contains .Valid then .Attested else .IntegrityOnly⟩

/-! ### A projection stands for its payload -/

lemma payloadOf_project (p : CommitmentPayload) : payloadOf (Commitment.project p) = some p := by
  obtain ⟨_, _, _, _, _, _, _, _, _ | ⟨_, _⟩⟩ := p
  · rfl
  · rfl

/-! ### What the outcomes depend on -/

lemma lookup_withoutAttestations (members : List (String × Json)) (key : String)
    (h : isBodyKey key = true) :
    (withoutAttestations members).lookup key = members.lookup key :=
  Serde.lookup_filter h

lemma integrity_withoutAttestations (members : List (String × Json)) :
    integrity libs (.object (withoutAttestations members)) = integrity libs (.object members) := by
  rw [integrity, integrity, get?, get?, get?, get?, get?, get?,
    lookup_withoutAttestations members "commitment" (by decide),
    lookup_withoutAttestations members "commitment_hash" (by decide),
    lookup_withoutAttestations members "commitment_wire_b64" (by decide)]

/-- The attestations a receipt carries. -/
def attestationsOf : List Json :=
  ((receipt.get? "attestations").bind asArray).getD []

/-- The receipt is of the format and its integrity holds. -/
def Intact : Prop :=
  (receipt.get? "receipt_format").bind text = some format ∧ integrity libs receipt = .Match

variable {libs : Libraries} {trusted : TrustedKeys}

/-- Both are about the members other than the attestations. -/
lemma intact_withoutAttestations {members : List (String × Json)} :
    Intact libs (.object (withoutAttestations members)) ↔ Intact libs (.object members) := by
  rw [Intact, Intact, integrity_withoutAttestations, get?, get?,
    lookup_withoutAttestations members "receipt_format" (by decide)]

lemma verify_of_intact {receipt : Json} (h : Intact libs receipt) :
    (verify libs receipt trusted).attestations
      = (attestationsOf receipt).map fun a =>
          attestation libs a (receiptBody libs receipt) trusted := by
  unfold verify
  rw [if_neg (not_not.mpr h.1), if_neg (not_not.mpr h.2)]
  rfl

/-- An attested receipt is intact, and one of its attestations is valid. -/
lemma attested_iff {receipt : Json} :
    (verify libs receipt trusted).verdict = .Attested
      ↔ Intact libs receipt
        ∧ ∃ att ∈ attestationsOf receipt,
            attestation libs att (receiptBody libs receipt) trusted = .Valid := by
  unfold verify Intact
  split_ifs with hformat hintegrity
  · exact ⟨fun h => (by cases h), fun h => absurd h.1.1 hformat⟩
  · exact ⟨fun h => (by cases h), fun h => absurd h.1.2 hintegrity⟩
  · rw [not_not] at hformat hintegrity
    dsimp only
    rw [← attestationsOf]
    constructor
    · intro h
      split at h
      · next hcontains =>
          rw [List.contains_iff_mem, List.mem_map] at hcontains
          obtain ⟨att, hmem, hvalid⟩ := hcontains
          exact ⟨⟨hformat, hintegrity⟩, att, hmem, hvalid⟩
      · cases h
    · rintro ⟨-, att, hmem, hvalid⟩
      rw [if_pos]
      rw [List.contains_iff_mem, List.mem_map]
      exact ⟨att, hmem, hvalid⟩

/-! ### Valid attestations -/

/-- An attestation carries a header and a signature, as a detached JWS. -/
def Carries (att : Json) (header : List Char) (signature : Bytes) : Prop :=
  ∃ sig, (((att.get? "jws").bind text).getD "").toList.splitOn '.' = [header, [], sig]
    ∧ Base64.decode Base64.urlSafe (String.ofList sig) = some signature

/-- The pieces of a text between its dots have none. -/
lemma dot_notMem_of_mem_splitOn {cs : List Char} : ∀ piece ∈ cs.splitOn '.', '.' ∉ piece := by
  rw [List.splitOn]
  induction cs with
  | nil => simp
  | cons c cs ih =>
    rw [List.splitOnP_cons_eq_if_modifyHead]
    split
    · exact List.forall_mem_cons.mpr ⟨List.not_mem_nil, ih⟩
    · next hc =>
        cases hsplit : cs.splitOnP (· == '.') with
        | nil => exact fun _ h => absurd h List.not_mem_nil
        | cons piece pieces =>
          rw [hsplit] at ih
          refine List.forall_mem_cons.mpr ⟨?_, fun p hp => ih p (List.mem_cons_of_mem _ hp)⟩
          rw [List.mem_cons, not_or]
          exact ⟨fun heq => hc (beq_iff_eq.mpr heq.symm), ih piece List.mem_cons_self⟩

lemma Carries.dot_notMem {att : Json} {header : List Char} {signature : Bytes}
    (h : Carries att header signature) : '.' ∉ header := by
  obtain ⟨sig, hsplit, -⟩ := h
  exact dot_notMem_of_mem_splitOn header (by rw [hsplit]; exact List.mem_cons_self)

/-- What a valid attestation shows: a trusted key verifies the signature it carries, over its header
and the body. -/
lemma attestation_eq_valid {att : Json} {body : Option Bytes}
    (h : attestation libs att body trusted = .Valid) :
    ∃ (header : List Char) (kid x : String) (key bytes signature : Bytes),
      Carries att header signature ∧ trusted[kid]? = some x
        ∧ verifyingKey libs x = some key ∧ body = some bytes
        ∧ libs.verifyStrict key (signingInput header bytes) signature = true := by
  unfold attestation at h
  split at h
  · cases h
  · split at h
    · next header sig hsplit =>
        unfold detached at h
        split at h
        · next value signature _ hsig =>
            split at h
            · cases h
            · split at h
              · cases h
              · next x hx =>
                  obtain ⟨kid, _, hkid⟩ := Option.bind_eq_some_iff.mp hx
                  unfold checkSignature at h
                  split at h
                  · next bytes key hkey =>
                      split at h
                      · next hif =>
                          exact ⟨header, kid, x, key, bytes, signature, ⟨sig, hsplit, hsig⟩, hkid,
                            hkey, rfl, hif.2⟩
                      · cases h
                  · cases h
        · cases h
    · cases h

end MacpRuntime.Receipt
