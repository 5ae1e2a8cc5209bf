import MacpRuntime.Core.Data
import MacpRuntime.Receipt.Jcs

/-!
The canonical commitment hash: `commitment_hash.rs` (`canonicalize`, `commitment_hash`,
`is_canonical_commitment_hash`) and the projection of `receipt/verify.rs` (`project`).  The bytes
are the compact text of the projection, from which every field is read back, so **both
canonicalizers give the same bytes, and the bytes determine the payload** (`commitment_preimage`).
-/

namespace MacpRuntime

/-- The digest of SHA-256. -/
abbrev Sha256 := List UInt8 → Vector UInt8 32

namespace Commitment

open Json

/-- The domain of the hash. -/
def label : String := "macp-commitment-hash/1"

/-- A member of the hard-coded text: what precedes the value, and the value's text. -/
def pushMember (literal : String) (value : List Char) : List Char := literal.toList ++ value

/-- A string in canonical JSON. -/
def pushJsonString (value : String) : List Char := Jcs.writeString value

/-- The member for a superseded commitment, left out when there is none. -/
def pushSupersedes : Option CommitmentRef → List Char
  | none => []
  | some r =>
    pushMember ",\"supersedes\":\x7b\"commitment_hash\":" (pushJsonString r.commitmentHash)
      ++ pushMember ",\"session_id\":" (pushJsonString r.sessionId) ++ [closeBrace]

variable (p : CommitmentPayload)

/-- The canonical text of a payload, its members in a fixed order. -/
def canonicalText : List Char :=
  [openBrace]
    ++ pushMember "\"action\":" (pushJsonString p.action)
    ++ pushMember ",\"authority_scope\":" (pushJsonString p.authorityScope)
    ++ pushMember ",\"commitment_id\":" (pushJsonString p.commitmentId)
    ++ pushMember ",\"configuration_version\":" (pushJsonString p.configurationVersion)
    ++ pushMember ",\"mode_version\":" (pushJsonString p.modeVersion)
    ++ pushMember ",\"outcome_positive\":" (if p.outcomePositive then "true" else "false").toList
    ++ pushMember ",\"policy_version\":" (pushJsonString p.policyVersion)
    ++ pushMember ",\"reason\":" (pushJsonString p.reason)
    ++ pushSupersedes p.supersedes
    ++ [closeBrace]

/-- The canonical bytes of a payload. -/
def canonicalize : List UInt8 :=
  Utf8.encode (String.ofList (canonicalText p))

/-- What is hashed. -/
def preimage : List UInt8 :=
  Utf8.encode label ++ Utf8.encode ":" ++ canonicalize p

/-- Two lower-case hexadecimal digits. -/
def hexByte (b : UInt8) : List Char := [hexDigit (b.toNat / 16), hexDigit (b.toNat % 16)]

/-- `commitment_hash`. -/
def commitmentHash (sha256 : Sha256) (p : CommitmentPayload) : String :=
  String.ofList ("sha256:".toList ++ (sha256 (preimage p)).toList.flatMap hexByte)

/-! ### The projection -/

variable (r : CommitmentRef)

/-- The member of what is superseded. -/
def supersedesMember : String × Json :=
  ("supersedes", .object [("commitment_hash", .string r.commitmentHash),
    ("session_id", .string r.sessionId)])

/-- The members of the projection, as the map holds them. -/
def projectMembers : List (String × Json) :=
  [("action", .string p.action), ("authority_scope", .string p.authorityScope),
    ("commitment_id", .string p.commitmentId),
    ("configuration_version", .string p.configurationVersion),
    ("mode_version", .string p.modeVersion), ("outcome_positive", .bool p.outcomePositive),
    ("policy_version", .string p.policyVersion), ("reason", .string p.reason)]
  ++ (p.supersedes.map supersedesMember).toList

/-- The payload as a JSON value. -/
def project : Json := .object (projectMembers p)

/-- The keys of a projection. -/
lemma map_fst_projectMembers :
    (projectMembers p).map Prod.fst
      = ["action", "authority_scope", "commitment_id", "configuration_version", "mode_version",
          "outcome_positive", "policy_version", "reason"]
        ++ (p.supersedes.map fun _ => "supersedes").toList := by
  obtain ⟨_, _, _, _, _, _, _, _, supersedes⟩ := p
  cases supersedes <;> rfl

lemma canonical_supersedes : Jcs.Canonical (supersedesMember r).2 :=
  Jcs.canonical_pair (by decide) (by decide) (Jcs.canonical_string _) (Jcs.canonical_string _)

/-- The members of the projection are in canonical order already. -/
lemma canonical_project : Jcs.Canonical (project p) := by
  have hkeys (order : String → String → Prop)
      (hnone : ["action", "authority_scope", "commitment_id", "configuration_version",
        "mode_version", "outcome_positive", "policy_version", "reason"].Pairwise order)
      (hsome : ["action", "authority_scope", "commitment_id", "configuration_version",
        "mode_version", "outcome_positive", "policy_version", "reason", "supersedes"].Pairwise
          order) : ((projectMembers p).map Prod.fst).Pairwise order := by
    rw [map_fst_projectMembers]
    cases p.supersedes with
    | none => exact hnone
    | some r => exact hsome
  refine Jcs.canonical_object (hkeys _ (by decide) (by decide)) (hkeys _ (by decide) (by decide)) ?_
  intro m hm
  rcases List.mem_append.mp hm with hm | hm
  · simp only [List.mem_cons, List.not_mem_nil, or_false] at hm
    rcases hm with rfl | rfl | rfl | rfl | rfl | rfl | rfl | rfl <;>
      exact ⟨trivial, trivial, rfl⟩
  · rw [Option.mem_toList, Option.map_eq_some_iff] at hm
    obtain ⟨r, -, rfl⟩ := hm
    exact canonical_supersedes r

lemma pushMember_first (literal key : String) (h : literal.toList = Json.writeString key ++ [':'])
    (t : List Char) : pushMember literal t = Json.writeString key ++ ':' :: t := by
  rw [pushMember, h, List.append_assoc, List.singleton_append]

lemma pushMember_next (literal key : String)
    (h : literal.toList = ',' :: (Json.writeString key ++ [':'])) (t : List Char) :
    pushMember literal t = ',' :: (Json.writeString key ++ ':' :: t) := by
  rw [pushMember, h, List.cons_append, List.append_assoc, List.singleton_append]

/-- The text of a superseded commitment as a member of the projection. -/
lemma pushSupersedes_some :
    pushSupersedes (some r)
      = ',' :: (Json.writeString "supersedes" ++ ':' :: write (supersedesMember r).2) := by
  have hopen : pushMember ",\"supersedes\":\x7b\"commitment_hash\":"
      (Json.writeString r.commitmentHash)
      = ',' :: (Json.writeString "supersedes" ++ ':' :: openBrace
          :: (Json.writeString "commitment_hash" ++ ':' :: Json.writeString r.commitmentHash)) := by
    have hlit : ",\"supersedes\":\x7b\"commitment_hash\":".toList
        = ',' :: (Json.writeString "supersedes" ++ ':' :: openBrace
          :: (Json.writeString "commitment_hash" ++ [':'])) := by decide
    rw [pushMember, hlit]
    simp only [List.cons_append, List.append_assoc, List.nil_append]
  rw [pushSupersedes, pushJsonString, pushJsonString, Jcs.writeString_eq, Jcs.writeString_eq,
    hopen, pushMember_next ",\"session_id\":" "session_id" (by decide), supersedesMember]
  simp only [write, writeMembers, List.cons_append, List.append_assoc, List.append_nil,
    List.isEmpty_cons, List.isEmpty_nil, if_true, if_false, Bool.false_eq_true]

/-- The hard-coded text is the compact text of the projection. -/
lemma canonicalText_eq : canonicalText p = write (project p) := by
  rw [canonicalText, pushMember_first "\"action\":" "action" (by decide),
    pushMember_next ",\"authority_scope\":" "authority_scope" (by decide),
    pushMember_next ",\"commitment_id\":" "commitment_id" (by decide),
    pushMember_next ",\"configuration_version\":" "configuration_version" (by decide),
    pushMember_next ",\"mode_version\":" "mode_version" (by decide),
    pushMember_next ",\"outcome_positive\":" "outcome_positive" (by decide),
    pushMember_next ",\"policy_version\":" "policy_version" (by decide),
    pushMember_next ",\"reason\":" "reason" (by decide)]
  simp only [pushJsonString, Jcs.writeString_eq]
  cases hs : p.supersedes with
  | none =>
    rw [pushSupersedes]
    simp only [project, projectMembers, hs, Option.map_none, Option.toList_none, write,
      writeMembers, List.cons_append, List.append_assoc, List.nil_append, List.append_nil,
      List.isEmpty_cons, List.isEmpty_nil, if_true, if_false, Bool.false_eq_true]
  | some r =>
    rw [pushSupersedes_some]
    simp only [project, projectMembers, hs, Option.map_some, Option.toList_some, write,
      writeMembers, List.cons_append, List.append_assoc, List.nil_append, List.append_nil,
      List.isEmpty_cons, List.isEmpty_nil, if_true, if_false, Bool.false_eq_true]
    rfl

lemma canonicalize_eq_toVec : canonicalize p = toVec (project p) := by
  rw [canonicalize, canonicalText_eq, toVec]

/-- Every field is read off the projection. -/
lemma project_injective : Function.Injective project := by
  intro p q h
  obtain ⟨_, _, _, _, _, _, _, _, _ | ⟨_, _⟩⟩ := p <;>
    obtain ⟨_, _, _, _, _, _, _, _, _ | ⟨_, _⟩⟩ := q <;>
    simp_all [project, projectMembers, supersedesMember]

lemma canonicalize_injective : Function.Injective canonicalize := by
  intro p q h
  rw [canonicalize_eq_toVec, canonicalize_eq_toVec] at h
  have hread := fromSlice_toVec (canonical_project p).integral.literal
  rw [h, fromSlice_toVec (canonical_project q).integral.literal, Option.some.injEq] at hread
  exact project_injective hread.symm

lemma preimage_injective : Function.Injective preimage := by
  intro p q h
  exact canonicalize_injective (List.append_cancel_left h)

/-! ### The hash -/

lemma hexByte_injective : Function.Injective hexByte := by
  intro a b h
  have ha := a.toNat_lt
  have hb := b.toNat_lt
  rw [hexByte, hexByte, List.cons.injEq, List.cons.injEq] at h
  have hdigit : ∀ m < 16, ∀ n < 16, hexDigit m = hexDigit n → m = n := by decide
  have hhigh := hdigit _ (by omega) _ (by omega) h.1
  have hlow := hdigit _ (by omega) _ (by omega) h.2.1
  exact UInt8.toNat_inj.mp (by omega)

lemma flatMap_hexByte_injective {as bs : List UInt8}
    (h : as.flatMap hexByte = bs.flatMap hexByte) : as = bs := by
  induction as generalizing bs with
  | nil =>
    cases bs with
    | nil => rfl
    | cons b bs => cases h
  | cons a as ih =>
    cases bs with
    | nil => cases h
    | cons b bs =>
      rw [List.flatMap_cons, List.flatMap_cons] at h
      obtain ⟨hab, hrest⟩ := List.append_inj h rfl
      rw [hexByte_injective hab, ih hrest]

/-- Equal hashes are equal digests. -/
lemma digest_eq_of_commitmentHash_eq {sha256 : Sha256} {p q : CommitmentPayload}
    (h : commitmentHash sha256 p = commitmentHash sha256 q) :
    sha256 (preimage p) = sha256 (preimage q) := by
  have htext := String.ofList_injective h
  have hhex := (List.append_right_inj _).mp htext
  exact Vector.toList_inj.mp (flatMap_hexByte_injective hhex)

/-- Two inputs that a hash function does not tell apart. -/
def Collision (sha256 : Sha256) (a b : List UInt8) : Prop := a ≠ b ∧ sha256 a = sha256 b

/-- **The commitment preimage.**  The hard-coded canonicalizer gives the bytes that the general one
gives for the projection; equal bytes mean equal payloads, in every field; and two payloads with
the same hash are equal, or their preimages are a collision of the hash function. -/
theorem commitment_preimage (numbers : Jcs.Numbers) (sha256 : Sha256) (p q : CommitmentPayload) :
    Jcs.canonicalize numbers (project p) = some (canonicalize p)
    ∧ (canonicalize p = canonicalize q → p = q)
    ∧ (commitmentHash sha256 p = commitmentHash sha256 q →
        p = q ∨ Collision sha256 (preimage p) (preimage q)) := by
  refine ⟨?_, fun h => canonicalize_injective h, ?_⟩
  · rw [(canonical_project p).canonicalize_eq, canonicalize_eq_toVec]
  · intro h
    by_cases heq : preimage p = preimage q
    · exact Or.inl (preimage_injective heq)
    · exact Or.inr ⟨heq, digest_eq_of_commitmentHash_eq h⟩

/-- No superseded commitment is not one with empty fields. -/
example (p : CommitmentPayload) :
    canonicalize { p with supersedes := none }
      ≠ canonicalize { p with supersedes := some ⟨"", ""⟩ } := by
  intro h
  cases congrArg CommitmentPayload.supersedes (canonicalize_injective h)

end Commitment

end MacpRuntime
