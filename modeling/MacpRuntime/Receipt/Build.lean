import MacpRuntime.Receipt.Verify

/-!
Issuing a receipt: `receipt/build.rs`, and what a receipt is worth.

* `Forged`: a receipt carries a signature that a trusted key verifies and that was never made;
* `signingInput_injective`: a signing input splits in one way into header and body;
* `receipts_tamper_evident`: **issued receipts are attested, an attested receipt has the body of an
  issued one or is forged, and the outcome of an attestation does not depend on the others**.
-/

namespace MacpRuntime.Receipt

open Json
open Commitment
open Serde (text)

/-- What a receipt is built from. -/
structure ReceiptInputs where
  sessionId : String
  mode : String
  wire : Bytes
  issuer : String
  issuedAt : String
  semanticsRev : Option (String × UInt32)

/-- A key with its id. -/
structure ReceiptSigner (libs : Libraries) where
  key : libs.SigningKey
  kid : String

/-- Why no receipt is built. -/
inductive BuildError where
  | NotHashable (reason : CannotVerify)
  deriving DecidableEq, Repr

/-- The protected header, with the `kid` as the compact writer prints it. -/
def jwsHeader (kid : String) : List Char :=
  "\x7b\"alg\":\"EdDSA\",\"kid\":".toList ++ Json.writeString kid ++ [closeBrace]

/-- One revision of the body. -/
def semanticsRevMember (r : String × UInt32) : String × Json :=
  ("semantics_rev", .object [("implementation", .string r.1),
    ("rev", .number (.posInt r.2.toUInt64))])

/-- The members of a body, as the map holds them. -/
def bodyMembers (inputs : ReceiptInputs) (payload : CommitmentPayload) (hash : String) :
    List (String × Json) :=
  [("commitment", project payload), ("commitment_hash", .string hash),
    ("commitment_wire_b64", .string (Base64.encodePadded Base64.standard inputs.wire)),
    ("issued_at", .string inputs.issuedAt), ("issuer", .string inputs.issuer),
    ("mode", .string inputs.mode), ("receipt_format", .string format)]
  ++ (inputs.semanticsRev.map semanticsRevMember).toList
  ++ [("session_id", .string inputs.sessionId)]

/-- The members of the body. -/
def bodyOf (hashing : Hashing) (inputs : ReceiptInputs) :
    Except BuildError (List (String × Json)) :=
  match commitmentHashOfWire hashing inputs.wire with
  | .error e => .error (.NotHashable e)
  | .ok hash =>
    match decodeCommitment inputs.wire with
    | some payload => .ok (bodyMembers inputs payload hash)
    | none => .error (.NotHashable (.Malformed (hashing.decodeError inputs.wire)))

variable (libs : Libraries)

/-- The canonical bytes of a value that has some: a receipt holds no floats. -/
def canonicalBytes (value : Json) : Bytes :=
  (Jcs.canonicalize libs.numbers value).getD []

/-- The header in base64url. -/
def headerText (kid : String) : List Char :=
  (Base64.encode Base64.urlSafe (Utf8.encode (String.ofList (jwsHeader kid)))).toList

/-- What a signer signs for a body. -/
def signedInput (kid : String) (members : List (String × Json)) : Bytes :=
  signingInput (headerText kid) (canonicalBytes libs (.object members))

/-- The attestation of a signature: the header and the signature, with the body left out. -/
def jwsAttestation (signer : ReceiptSigner libs) (members : List (String × Json)) : Json :=
  let sig := Base64.encode Base64.urlSafe
    (libs.sign signer.key (signedInput libs signer.kid members))
  .object [("jws", .string (String.ofList (headerText signer.kid ++ '.' :: '.' :: sig.toList))),
    ("type", .string "jws")]

/-- The attestations of a body. -/
def attestationsFor (members : List (String × Json)) : Option (ReceiptSigner libs) → List Json
  | none => []
  | some signer => [jwsAttestation libs signer members]

/-- The receipt with its attestations, which come first in the map. -/
def receiptOf (members : List (String × Json)) (signer : Option (ReceiptSigner libs)) : Json :=
  .object (("attestations", .array (attestationsFor libs members signer)) :: members)

variable (inputs : ReceiptInputs)

/-- The bytes of a receipt. -/
def build (signer : Option (ReceiptSigner libs)) : Except BuildError Bytes :=
  (bodyOf libs.hashing inputs).map fun members =>
    canonicalBytes libs (receiptOf libs members signer)

/-! ### The values of a receipt -/

variable (payload : CommitmentPayload)

lemma map_fst_bodyMembers (hash : String) :
    (bodyMembers inputs payload hash).map Prod.fst
      = ["commitment", "commitment_hash", "commitment_wire_b64", "issued_at", "issuer", "mode",
          "receipt_format"]
        ++ (inputs.semanticsRev.map fun _ => "semantics_rev").toList ++ ["session_id"] := by
  obtain ⟨_, _, _, _, _, rev⟩ := inputs
  cases rev <;> rfl

lemma canonical_semanticsRev (r : String × UInt32) : Jcs.Canonical (semanticsRevMember r).2 :=
  Jcs.canonical_pair (by decide) (by decide) (Jcs.canonical_string _) ⟨trivial, trivial, rfl⟩

lemma canonical_bodyMembers (hash : String) :
    ∀ m ∈ bodyMembers inputs payload hash, Jcs.Canonical m.2 := by
  intro m hm
  simp only [bodyMembers, List.mem_append, List.mem_cons, List.not_mem_nil, or_false,
    Option.mem_toList, Option.map_eq_some_iff] at hm
  rcases hm with ((rfl | rfl | rfl | rfl | rfl | rfl | rfl) | ⟨r, -, rfl⟩) | rfl
  · exact canonical_project payload
  · exact Jcs.canonical_string _
  · exact Jcs.canonical_string _
  · exact Jcs.canonical_string _
  · exact Jcs.canonical_string _
  · exact Jcs.canonical_string _
  · exact Jcs.canonical_string _
  · exact canonical_semanticsRev r
  · exact Jcs.canonical_string _

/-- The keys of a body are the possible ones, in their order. -/
lemma keys_bodyMembers (hash : String) :
    ((bodyMembers inputs payload hash).map Prod.fst).Sublist
      ["commitment", "commitment_hash", "commitment_wire_b64", "issued_at", "issuer", "mode",
        "receipt_format", "semantics_rev", "session_id"] := by
  rw [map_fst_bodyMembers]
  cases inputs.semanticsRev with
  | none => exact by decide
  | some r => exact List.Sublist.refl _

lemma canonical_body (hash : String) :
    Jcs.Canonical (.object (bodyMembers inputs payload hash)) := by
  have hkeys := keys_bodyMembers inputs payload hash
  refine Jcs.canonical_object (List.Pairwise.sublist hkeys ?_) (List.Pairwise.sublist hkeys ?_)
    (canonical_bodyMembers inputs payload hash)
  · decide
  · decide

lemma canonical_jwsAttestation (signer : ReceiptSigner libs)
    (members : List (String × Json)) : Jcs.Canonical (jwsAttestation libs signer members) :=
  Jcs.canonical_pair (by decide) (by decide) (Jcs.canonical_string _) (Jcs.canonical_string _)

lemma canonical_receiptOf (hash : String) (signer : Option (ReceiptSigner libs)) :
    Jcs.Canonical (receiptOf libs (bodyMembers inputs payload hash) signer) := by
  have hkeys := (keys_bodyMembers inputs payload hash).cons_cons "attestations"
  refine Jcs.canonical_object (List.Pairwise.sublist hkeys ?_) (List.Pairwise.sublist hkeys ?_) ?_
  · decide
  · decide
  · refine List.forall_mem_cons.mpr
      ⟨Jcs.canonical_array ?_, canonical_bodyMembers inputs payload hash⟩
    cases signer with
    | none => exact fun _ h => absurd h List.not_mem_nil
    | some signer =>
      intro v hv
      rw [List.mem_singleton.mp hv]
      exact canonical_jwsAttestation libs signer _

/-! ### What is signed -/

variable (kid : String)

/-- The header as a value. -/
def headerValue : Json := .object [("alg", .string "EdDSA"), ("kid", .string kid)]

lemma jwsHeader_eq : jwsHeader kid = write (headerValue kid) := by
  have hlit : "\x7b\"alg\":\"EdDSA\",\"kid\":".toList
      = openBrace :: (Json.writeString "alg" ++ ':' :: (Json.writeString "EdDSA"
          ++ ',' :: (Json.writeString "kid" ++ [':']))) := by decide
  unfold jwsHeader headerValue
  rw [hlit]
  simp only [write, writeMembers, List.cons_append, List.append_assoc, List.nil_append,
    List.append_nil, List.isEmpty_cons, List.isEmpty_nil, if_true, if_false, Bool.false_eq_true]

lemma canonical_headerValue : Jcs.Canonical (headerValue kid) :=
  Jcs.canonical_pair (by decide) (by decide) (Jcs.canonical_string _) (Jcs.canonical_string _)

lemma dot_notMem_headerText : '.' ∉ headerText kid :=
  Base64.dot_notMem_encode Base64.urlSafe _

/-- The header is read back. -/
lemma decode_headerText :
    (Base64.decode Base64.urlSafe (String.ofList (headerText kid))).bind libs.fromSlice
      = some (headerValue kid) := by
  have hcanonical := canonical_headerValue kid
  rw [headerText, String.ofList_toList, Base64.decode_encode, Option.bind_some, jwsHeader_eq]
  exact libs.fromSlice_toVec _ hcanonical.integral hcanonical.keyed

/-- A signing input splits in one way into header and body. -/
lemma signingInput_injective {h₁ h₂ : List Char} {b₁ b₂ : Bytes} (hdot₁ : '.' ∉ h₁)
    (hdot₂ : '.' ∉ h₂) (h : signingInput h₁ b₁ = signingInput h₂ b₂) : h₁ = h₂ ∧ b₁ = b₂ := by
  have hchars := String.ofList_injective (Utf8.encode_injective h)
  have htake (cs rest : List Char) (hcs : '.' ∉ cs) :
      (cs ++ '.' :: rest).takeWhile (· ≠ '.') = cs := by
    have hall : ∀ c ∈ cs, decide (c ≠ '.') = true := by
      intro c hc
      exact decide_eq_true fun heq => hcs (heq ▸ hc)
    rw [List.takeWhile_append_of_pos hall, List.takeWhile_cons_of_neg (by simp), List.append_nil]
  have hheader : h₁ = h₂ := by
    have := congrArg (List.takeWhile (· ≠ '.')) hchars
    rwa [htake h₁ _ hdot₁, htake h₂ _ hdot₂] at this
  subst hheader
  have hbody := (List.cons.inj (List.append_cancel_left hchars)).2
  exact ⟨rfl, Base64.encode_injective Base64.urlSafe (String.toList_injective hbody)⟩

/-- A receipt that was issued: its inputs and its signer. -/
structure Issue (libs : Libraries) where
  inputs : ReceiptInputs
  signer : ReceiptSigner libs

/-- What was signed for an issued receipt. -/
def Issue.Signed {libs : Libraries} (i : Issue libs) (m : Bytes) : Prop :=
  ∃ members, bodyOf libs.hashing i.inputs = .ok members
    ∧ m = signedInput libs i.signer.kid members

/-- A forgery in a receipt: one of its attestations carries a signature that a trusted key verifies
over the header and the body, and for no issued receipt that key signed them. -/
def Forged {libs : Libraries} (issued : Set (Issue libs)) (trusted : TrustedKeys) (receipt : Json) :
    Prop :=
  ∃ att ∈ attestationsOf receipt,
    ∃ (header : List Char) (kid x : String) (key body signature : Bytes),
    Carries att header signature ∧ trusted[kid]? = some x ∧ verifyingKey libs x = some key
      ∧ receiptBody libs receipt = some body
      ∧ libs.verifyStrict key (signingInput header body) signature = true
      ∧ ∀ i ∈ issued, libs.publicKey i.signer.key = key → ¬ i.Signed (signingInput header body)

variable {inputs : ReceiptInputs} {members : List (String × Json)} {libs : Libraries}

/-- What the body of an issued receipt is made of. -/
lemma bodyOf_eq_ok {hashing : Hashing} (h : bodyOf hashing inputs = .ok members) :
    ∃ payload, decodeCommitment inputs.wire = some payload
      ∧ commitmentHashOfWire hashing inputs.wire
          = .ok (commitmentHash hashing.sha256 payload)
      ∧ members = bodyMembers inputs payload
          (commitmentHash hashing.sha256 payload) := by
  unfold bodyOf at h
  split at h
  · cases h
  · next hash hhash =>
      obtain ⟨payload, hdecode, _, rfl⟩ := commitmentHashOfWire_eq_ok.mp hhash
      rw [hdecode] at h
      exact ⟨payload, hdecode, hhash, (Except.ok.inj h).symm⟩

/-! ### Issued receipts are attested -/

lemma intact_body {payload : CommitmentPayload}
    (hdecode : decodeCommitment inputs.wire = some payload)
    (hhash : commitmentHashOfWire libs.hashing inputs.wire
      = .ok (commitmentHash libs.hashing.sha256 payload)) :
    Intact libs (.object (bodyMembers inputs payload
      (commitmentHash libs.hashing.sha256 payload))) := by
  have hmatch : verifyCommitmentHash libs.hashing inputs.wire
      (commitmentHash libs.hashing.sha256 payload) = .Match :=
    (verify_match_iff _ _ _).mpr (commitmentHashOfWire_eq_ok.mp hhash)
  refine ⟨rfl, ?_⟩
  change integrityOf libs (some (project payload))
    (some (.string (commitmentHash libs.hashing.sha256 payload)))
    (some (.string (Base64.encodePadded Base64.standard inputs.wire))) = .Match
  rw [integrityOf, payloadOf_project]
  dsimp only
  rw [Option.bind_some, text, if_neg (not_not.mpr rfl), wireIntegrity, text, Option.bind_some,
    Base64.decodePadded_encodePadded]
  dsimp only
  rw [Option.getD_some, hmatch, hdecode]
  dsimp only
  rw [if_pos rfl]

lemma withoutAttestations_cons (att : Json) (inputs : ReceiptInputs) (payload : CommitmentPayload)
    (hash : String) :
    withoutAttestations (("attestations", att) :: bodyMembers inputs payload hash)
      = bodyMembers inputs payload hash := by
  have hkeys : ∀ m ∈ bodyMembers inputs payload hash, isBodyKey m.1 = true := by
    intro m hm
    have hkey := (keys_bodyMembers inputs payload hash).subset (List.mem_map_of_mem hm)
    simp only [List.mem_cons, List.not_mem_nil, or_false] at hkey
    rcases hkey with h | h | h | h | h | h | h | h | h <;> rw [h] <;> decide
  have hatt : ¬ isBodyKey "attestations" = true := by decide
  rw [withoutAttestations, List.filter_cons, if_neg hatt, List.filter_eq_self.mpr hkeys]

/-- A JWS with the body left out has three parts. -/
lemma splitOn_detached {header sig : List Char} (hheader : '.' ∉ header) (hsig : '.' ∉ sig) :
    (header ++ '.' :: '.' :: sig).splitOn '.' = [header, [], sig] := by
  have hjoin : ['.'].intercalate [header, [], sig] = header ++ '.' :: '.' :: sig := by
    simp [List.intercalate, List.intersperse]
  rw [← hjoin]
  refine List.splitOn_intercalate '.' ?_ (List.cons_ne_nil _ _)
  simp only [List.forall_mem_cons]
  exact ⟨hheader, List.not_mem_nil, hsig, fun _ h => absurd h List.not_mem_nil⟩

/-- The attestation of an issued receipt is valid when the signer's key is trusted. -/
lemma attestation_jwsAttestation {signer : ReceiptSigner libs} {trusted : TrustedKeys}
    (htrusted : trusted[signer.kid]?
      = some (Base64.encode Base64.urlSafe (libs.publicKey signer.key))) :
    attestation libs (jwsAttestation libs signer members)
      (some (canonicalBytes libs (.object members))) trusted = .Valid := by
  let sig := Base64.encode Base64.urlSafe
    (libs.sign signer.key (signedInput libs signer.kid members))
  have hkey : verifyingKey libs (Base64.encode Base64.urlSafe (libs.publicKey signer.key))
      = some (libs.publicKey signer.key) := by
    rw [verifyingKey, Base64.decode_encode, Option.filter_some, if_pos]
    rw [libs.length_publicKey, libs.isPoint_publicKey]
    rfl
  have hjws : (((jwsAttestation libs signer members).get? "jws").bind text).getD ""
      = String.ofList (headerText signer.kid ++ '.' :: '.' :: sig.toList) := rfl
  have htype : ((jwsAttestation libs signer members).get? "type").bind text = some "jws" := rfl
  unfold attestation
  rw [if_neg (not_not.mpr htype), hjws, String.toList_ofList,
    splitOn_detached (dot_notMem_headerText _) (Base64.dot_notMem_encode _ _)]
  dsimp only
  rw [detached, decode_headerText, String.ofList_toList, Base64.decode_encode]
  dsimp only
  have hkid : (((headerValue signer.kid).get? "kid").bind text).bind (fun kid => trusted[kid]?)
      = some (Base64.encode Base64.urlSafe (libs.publicKey signer.key)) := htrusted
  have halg : ((headerValue signer.kid).get? "alg").bind text = some "EdDSA" := rfl
  rw [if_neg (not_not.mpr halg), hkid]
  dsimp only
  unfold checkSignature
  rw [hkey]
  dsimp only
  rw [if_pos ⟨libs.length_sign _ _, libs.verifyStrict_sign _ _⟩]

/-- What the bytes of an issued receipt are read as, and its body. -/
lemma read_receiptOf (inputs : ReceiptInputs) (payload : CommitmentPayload) (hash : String)
    (signer : Option (ReceiptSigner libs)) :
    libs.fromSlice (canonicalBytes libs (receiptOf libs (bodyMembers inputs payload hash) signer))
        = some (receiptOf libs (bodyMembers inputs payload hash) signer)
      ∧ receiptBody libs (receiptOf libs (bodyMembers inputs payload hash) signer)
        = some (canonicalBytes libs (.object (bodyMembers inputs payload hash))) := by
  have hcanonical := canonical_receiptOf libs inputs payload hash signer
  constructor
  · rw [canonicalBytes, hcanonical.canonicalize_eq, Option.getD_some]
    exact libs.fromSlice_toVec _ hcanonical.integral hcanonical.keyed
  · change Jcs.canonicalize libs.numbers (.object (withoutAttestations _)) = _
    rw [withoutAttestations_cons, canonicalBytes, (canonical_body _ _ _).canonicalize_eq,
      Option.getD_some]

/-- **Issued receipts are attested** where the signer's key is trusted. -/
theorem attested_of_build {signer : ReceiptSigner libs} {trusted : TrustedKeys} {bytes : Bytes}
    (htrusted : trusted[signer.kid]?
      = some (Base64.encode Base64.urlSafe (libs.publicKey signer.key)))
    (hbuild : build libs inputs (some signer) = .ok bytes) :
    ∃ receipt, libs.fromSlice bytes = some receipt
      ∧ (verify libs receipt trusted).verdict = .Attested := by
  unfold build at hbuild
  cases hbody : bodyOf libs.hashing inputs with
  | error e =>
    rw [hbody] at hbuild
    cases hbuild
  | ok members =>
    rw [hbody] at hbuild
    cases hbuild
    obtain ⟨payload, hdecode, hhash, rfl⟩ := bodyOf_eq_ok hbody
    obtain ⟨hread, hbytes⟩ := read_receiptOf inputs payload
      (commitmentHash libs.hashing.sha256 payload) (some signer)
    refine ⟨_, hread, attested_iff.mpr ⟨?_, _, List.mem_singleton_self _, ?_⟩⟩
    · rw [receiptOf, ← intact_withoutAttestations, withoutAttestations_cons]
      exact intact_body hdecode hhash
    · rw [hbytes]
      exact attestation_jwsAttestation htrusted

/-! ### Attested receipts were issued -/

lemma integral_withoutAttestations (h : (Json.object members).Integral) :
    (Json.object (withoutAttestations members)).Integral := by
  refine ⟨trivial, Json.everywhereMembers_iff.mpr fun m hm => ?_⟩
  exact Json.everywhereMembers_iff.mp h.2 m (List.mem_of_mem_filter hm)

lemma keyed_withoutAttestations (h : Jcs.Keyed (.object members)) :
    Jcs.Keyed (.object (withoutAttestations members)) := by
  refine ⟨List.Pairwise.filter _ h.1, Json.everywhereMembers_iff.mpr fun m hm => ?_⟩
  exact Json.everywhereMembers_iff.mp h.2 m (List.mem_of_mem_filter hm)

/-- **Attested receipts were issued**, or a signature was forged. -/
theorem issued_or_forged {trusted : TrustedKeys} {receipt : Json} (issued : Set (Issue libs))
    (hintegral : receipt.Integral) (hkeyed : Jcs.Keyed receipt)
    (hattested : (verify libs receipt trusted).verdict = .Attested) :
    Forged issued trusted receipt
      ∨ ∃ i ∈ issued, ∃ members, receipt = .object members
        ∧ bodyOf libs.hashing i.inputs = .ok (withoutAttestations members)
        ∧ ∃ kid x : String, trusted[kid]? = some x
          ∧ verifyingKey libs x = some (libs.publicKey i.signer.key) := by
  obtain ⟨-, att, hatt, hvalid⟩ := attested_iff.mp hattested
  obtain ⟨header, kid, x, key, bytes, signature, hcarries, hkid, hkey, hbody, hverify⟩ :=
    attestation_eq_valid hvalid
  by_cases hsigned : ∃ i ∈ issued, libs.publicKey i.signer.key = key
      ∧ i.Signed (signingInput header bytes)
  swap
  · push Not at hsigned
    exact .inl ⟨att, hatt, header, kid, x, key, bytes, signature, hcarries, hkid, hkey, hbody,
      hverify, hsigned⟩
  obtain ⟨i, hi, rfl, members', hbodyOf, hinput⟩ := hsigned
  obtain ⟨-, hbytes⟩ :=
    signingInput_injective hcarries.dot_notMem (dot_notMem_headerText _) hinput
  obtain ⟨payload, _, _, rfl⟩ := bodyOf_eq_ok hbodyOf
  have hcanonical := canonical_body i.inputs payload
    (commitmentHash libs.hashing.sha256 payload)
  rw [hbytes, canonicalBytes, hcanonical.canonicalize_eq, Option.getD_some,
    ← hcanonical.canonicalize_eq libs.numbers] at hbody
  cases receipt with
  | object members =>
    have hsame := Jcs.canonicalize_injective libs.numbers
      (integral_withoutAttestations hintegral) hcanonical.integral
      (keyed_withoutAttestations hkeyed) hcanonical.keyed hbody
    rw [← Json.object.inj hsame] at hbodyOf
    exact .inr ⟨i, hi, members, rfl, hbodyOf, kid, x, hkid, hkey⟩
  | _ =>
    rw [hcanonical.canonicalize_eq] at hbody
    cases hbody

/-- **Receipts are verifiable and tamper-evident.**  With the signer's key trusted, a receipt that
was built is attested.  A receipt without floats that is attested has, without its attestations, the
body of a receipt that a trusted key signed, unless it carries a signature that verifies and was
never made.  And the attestations of an attested receipt can be added to, removed or reordered
without changing what is reported for any one of them. -/
theorem receipts_tamper_evident (libs : Libraries) (trusted : TrustedKeys) :
    (∀ (inputs : ReceiptInputs) (signer : ReceiptSigner libs) (bytes : Bytes),
      trusted[signer.kid]? = some (Base64.encode Base64.urlSafe (libs.publicKey signer.key)) →
      build libs inputs (some signer) = .ok bytes →
        ∃ receipt, libs.fromSlice bytes = some receipt
          ∧ (verify libs receipt trusted).verdict = .Attested)
    ∧ (∀ (issued : Set (Issue libs)) (receipt : Json), receipt.Integral → Jcs.Keyed receipt →
        (verify libs receipt trusted).verdict = .Attested → ¬ Forged issued trusted receipt →
          ∃ i ∈ issued, ∃ members, receipt = .object members
            ∧ bodyOf libs.hashing i.inputs = .ok (withoutAttestations members)
            ∧ ∃ kid x : String, trusted[kid]? = some x
              ∧ verifyingKey libs x = some (libs.publicKey i.signer.key))
    ∧ (∀ members, (verify libs (.object members) trusted).verdict = .Attested →
        ∃ outcome : Json → AttestationOutcome,
          ∀ members', withoutAttestations members' = withoutAttestations members →
            (verify libs (.object members') trusted).attestations
              = (attestationsOf (.object members')).map outcome) := by
  refine ⟨fun inputs signer bytes => attested_of_build, ?_, ?_⟩
  · intro issued receipt hintegral hkeyed hattested hgenuine
    exact (issued_or_forged issued hintegral hkeyed hattested).resolve_left hgenuine
  · intro members hattested
    obtain ⟨hintact, -⟩ := attested_iff.mp hattested
    refine ⟨fun a => attestation libs a
      (Jcs.canonicalize libs.numbers (.object (withoutAttestations members))) trusted, ?_⟩
    intro members' heq
    have hintact' : Intact libs (.object members') := by
      rw [← intact_withoutAttestations, heq, intact_withoutAttestations]
      exact hintact
    rw [verify_of_intact hintact', ← heq]
    rfl

/-! ### A signer of one receipt -/

/-- The inputs for an empty commitment. -/
def sampleInputs : ReceiptInputs :=
  ⟨"11111111-1111-4111-8111-111111111111", "macp.mode.decision.v1", [], "runtime",
    "2026-10-24T12:00:00Z", none⟩

/-- A constant hash. -/
def sampleHashing : Hashing := ⟨fun _ => Vector.replicate 32 0, fun _ => ""⟩

/-- A scheme of one key, whose signature is the beginning of the message. -/
def sampleLibraries : Libraries where
  numbers := ⟨exactDecimal, fun _ => []⟩
  hashing := sampleHashing
  fromSlice := Json.fromSlice
  fromSlice_toVec := fun _ h _ => Json.fromSlice_toVec h.literal
  SigningKey := Unit
  publicKey := fun _ => List.replicate 32 0
  isPoint := fun _ => true
  sign := fun _ m => (m ++ List.replicate 64 0).take 64
  verifyStrict := fun _ m s => s == (m ++ List.replicate 64 0).take 64
  length_publicKey := fun _ => List.length_replicate
  isPoint_publicKey := fun _ => rfl
  length_sign := fun _ _ => by simp
  verifyStrict_sign := fun _ _ => beq_self_eq_true _

/-- The key `k1`. -/
def sampleSigner : ReceiptSigner sampleLibraries := ⟨(), "k1"⟩

/-- A verifier that trusts `k1`. -/
def sampleTrusted : TrustedKeys :=
  (∅ : TrustedKeys).insert "k1" (Base64.encode Base64.urlSafe (List.replicate 32 0))

/-- The body of the sample inputs. -/
def sampleBody : List (String × Json) :=
  bodyMembers sampleInputs emptyPayload
    (commitmentHash sampleHashing.sha256 emptyPayload)

/-- The receipt the signer issues. -/
def sampleReceipt : Json := receiptOf sampleLibraries sampleBody (some sampleSigner)

lemma bodyOf_sampleInputs : bodyOf sampleHashing sampleInputs = .ok sampleBody := by
  have hcovered : Covered [] :=
    ⟨[], rfl, fun _ h => absurd h List.not_mem_nil⟩
  have hhash : commitmentHashOfWire sampleHashing []
      = .ok (commitmentHash sampleHashing.sha256 emptyPayload) :=
    commitmentHashOfWire_eq_ok.mpr ⟨emptyPayload, rfl, hcovered, rfl⟩
  unfold bodyOf
  rw [show sampleInputs.wire = [] from rfl, hhash]
  rfl

/-- The signer's is the only key that is trusted. -/
lemma verifyingKey_sampleTrusted {kid x : String} {key : Bytes}
    (hkid : sampleTrusted[kid]? = some x) (hkey : verifyingKey sampleLibraries x = some key) :
    List.replicate 32 0 = key := by
  rw [sampleTrusted, Std.ExtTreeMap.getElem?_insert, Std.ExtTreeMap.getElem?_empty] at hkid
  split_ifs at hkid
  cases hkid
  rw [verifyingKey, Base64.decode_encode] at hkey
  exact Option.some.inj (Option.filter_eq_some_iff.mp hkey).1

/-- The sample receipt carries the signer's own signature and no other. -/
lemma sampleReceipt_genuine :
    ¬ Forged {(⟨sampleInputs, sampleSigner⟩ : Issue sampleLibraries)} sampleTrusted
      sampleReceipt := by
  rintro ⟨att, hatt, header, kid, x, key, body, signature, ⟨sig, hsplit, -⟩, hkid, hkey,
    hbody, -, hunsigned⟩
  obtain rfl : att = jwsAttestation sampleLibraries sampleSigner sampleBody :=
    List.mem_singleton.mp hatt
  obtain rfl := Option.some.inj ((read_receiptOf _ _ _ _).2.symm.trans hbody)
  have hjws : (((jwsAttestation sampleLibraries sampleSigner sampleBody).get? "jws").bind
      text).getD "" = String.ofList (headerText "k1" ++ '.' :: '.' :: (Base64.encode Base64.urlSafe
        (sampleLibraries.sign () (signedInput sampleLibraries "k1" sampleBody))).toList) := rfl
  rw [hjws, String.toList_ofList,
    splitOn_detached (dot_notMem_headerText _) (Base64.dot_notMem_encode _ _)] at hsplit
  obtain rfl := (List.cons.inj hsplit).1
  exact hunsigned _ rfl (verifyingKey_sampleTrusted hkid hkey)
    ⟨sampleBody, bodyOf_sampleInputs, rfl⟩

/-- The sample receipt is attested, and its body is the issued one's. -/
theorem receipts_tamper_evident_sample :
    ∃ bytes, build sampleLibraries sampleInputs (some sampleSigner) = .ok bytes
      ∧ sampleLibraries.fromSlice bytes = some sampleReceipt
      ∧ (verify sampleLibraries sampleReceipt sampleTrusted).verdict = .Attested
      ∧ ∃ members, sampleReceipt = .object members
        ∧ bodyOf sampleHashing sampleInputs = .ok (withoutAttestations members) := by
  have hbuild : build sampleLibraries sampleInputs (some sampleSigner)
      = .ok (canonicalBytes sampleLibraries sampleReceipt) := by
    unfold build
    rw [show sampleLibraries.hashing = sampleHashing from rfl, bodyOf_sampleInputs]
    rfl
  have htrusted : sampleTrusted["k1"]?
      = some (Base64.encode Base64.urlSafe (List.replicate 32 0)) :=
    Std.ExtTreeMap.getElem?_insert_self
  obtain ⟨hattests, hissued, -⟩ := receipts_tamper_evident sampleLibraries sampleTrusted
  obtain ⟨receipt, hread, hattested⟩ := hattests sampleInputs sampleSigner _ htrusted hbuild
  have hread' : sampleLibraries.fromSlice (canonicalBytes sampleLibraries sampleReceipt)
      = some sampleReceipt := (read_receiptOf _ _ _ _).1
  obtain rfl := Option.some.inj (hread.symm.trans hread')
  have hcanonical : Jcs.Canonical sampleReceipt := canonical_receiptOf _ _ _ _ _
  obtain ⟨i, rfl, members, hmembers, hbody, -⟩ := hissued _ sampleReceipt hcanonical.integral
    hcanonical.keyed hattested sampleReceipt_genuine
  exact ⟨_, hbuild, hread', hattested, members, hmembers, hbody⟩

end MacpRuntime.Receipt
