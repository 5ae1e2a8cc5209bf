import MacpRuntime.Core.Session

/-!
The validation of a `SessionStart` that needs neither a mode nor a policy
(`macp-core/src/session.rs`): the payload decoder, the TTL range, the canonical binding contract,
whose roster rule depends on the mode, and the format of session ids, a hyphenated lowercase UUID
v4/v7 or a base64url token of at least 22 characters.
-/

namespace MacpRuntime

/-! ### Text -/

/-- The Unicode `White_Space` property, which is what `str::trim` strips. -/
def isWhiteSpace (c : Char) : Bool :=
  let n := c.toNat
  (9 ≤ n && n ≤ 13) || n == 32 || n == 0x85 || n == 0xA0 || n == 0x1680
    || (0x2000 ≤ n && n ≤ 0x200A) || n == 0x2028 || n == 0x2029 || n == 0x202F
    || n == 0x205F || n == 0x3000

/-- `str::trim`. -/
def trim (s : String) : String :=
  String.ofList (((s.toList.dropWhile isWhiteSpace).reverse.dropWhile isWhiteSpace).reverse)

/-- `str::starts_with`. -/
def startsWith (s p : String) : Bool := p.toList.isPrefixOf s.toList

/-! ### The payload -/

/-- The modes held to the canonical contract by name. -/
def requiresStrictSessionStart (mode : String) : Bool :=
  mode == "macp.mode.decision.v1" || mode == "macp.mode.proposal.v1"
    || mode == "macp.mode.task.v1" || mode == "macp.mode.handoff.v1"
    || mode == "macp.mode.quorum.v1" || mode == "ext.multi_round.v1"

/-- Decode a `SessionStart` payload; the empty one is refused. -/
def parseSessionStartPayload (prost : Prost) (payload : Bytes) :
    Except MacpError SessionStartPayload :=
  if payload.isEmpty then .error .InvalidPayload
  else
    match prost.decodeSessionStart payload with
    | some p => .ok p
    | none => .error .InvalidPayload

/-- The TTL, which must lie in `1..=maxTtlMs`. -/
def extractTtlMs (payload : SessionStartPayload) : Except MacpError Int64 :=
  if 1 ≤ payload.ttlMs ∧ payload.ttlMs ≤ maxTtlMs then .ok payload.ttlMs
  else .error .InvalidTtl

/-- Decision alone may start with no participants. -/
def allowsEmptyParticipants (mode : String) : Bool := mode == "macp.mode.decision.v1"

/-- The bound on the size of a roster. -/
def maxParticipants : ℕ := 1000

/-- The roster scan: every name, trimmed, is non-empty and new. -/
def participantsValid : List String → Std.ExtTreeSet String → Bool
  | [], _ => true
  | p :: rest, seen =>
    let p := trim p
    if p.isEmpty || seen.contains p then false
    else participantsValid rest (seen.insert p)

/-- The canonical binding contract. -/
def validateCanonicalStart (payload : SessionStartPayload) (allowEmptyParticipants : Bool) :
    Except MacpError Unit :=
  match extractTtlMs payload with
  | .error e => .error e
  | .ok _ =>
    if (trim payload.modeVersion).isEmpty || (trim payload.configurationVersion).isEmpty then
      .error .InvalidPayload
    else if payload.participants.isEmpty && !allowEmptyParticipants then
      .error .InvalidPayload
    else if maxParticipants < payload.participants.length then .error .InvalidPayload
    else if !participantsValid payload.participants ∅ then .error .InvalidPayload
    else if payload.maxSuspendMs < 0 then .error .InvalidPayload
    else .ok ()

/-- The canonical binding contract, with the roster rule scoped to the mode. -/
def validateCanonicalSessionStartPayloadForMode (mode : String) (payload : SessionStartPayload) :
    Except MacpError Unit :=
  validateCanonicalStart payload (allowsEmptyParticipants mode)

/-- A validated TTL is the payload's own, and positive. -/
lemma extractTtlMs_eq_ok {payload : SessionStartPayload} {ttl : Int64}
    (h : extractTtlMs payload = .ok ttl) : ttl = payload.ttlMs ∧ 1 ≤ ttl ∧ ttl ≤ maxTtlMs := by
  unfold extractTtlMs at h
  split at h
  · rename_i hr
    injection h with h
    subst h
    exact ⟨rfl, hr⟩
  · cases h

/-! ### The session id -/

/-- `MAX_SESSION_ID_BYTES`. -/
def maxSessionIdBytes : ℕ := 128

/-- A hexadecimal digit. -/
def isHexDigit (c : Char) : Bool :=
  ('0' ≤ c && c ≤ '9') || ('a' ≤ c && c ≤ 'f') || ('A' ≤ c && c ≤ 'F')

/-- Whether a 36-byte text parses as a UUID: hyphens at 8, 13, 18 and 23, hexadecimal
digits of either case elsewhere. -/
def uuidParses (cs : List Char) : Bool :=
  cs.length == 36 && cs.zipIdx.all fun (c, i) =>
    if i == 8 || i == 13 || i == 18 || i == 23 then c == '-' else isHexDigit c

/-- The hyphenated form prints in lower case, so a parsed text is canonical when it
has no upper-case digit. -/
def uuidCanonical (cs : List Char) : Bool := cs.all fun c => !('A' ≤ c && c ≤ 'F')

/-- The version nibble of a parsed UUID is random (4) or sortable (7). -/
def uuidVersionAllowed (cs : List Char) : Bool := cs[14]? == some '4' || cs[14]? == some '7'

/-- A character of base64url. -/
def isBase64UrlChar (c : Char) : Bool :=
  ('a' ≤ c && c ≤ 'z') || ('A' ≤ c && c ≤ 'Z') || ('0' ≤ c && c ≤ '9') || c == '_' || c == '-'

/-- The session-id acceptance policy.  A text that parses as a UUID is held to the UUID
rules and never falls through to the token rule. -/
def validateSessionIdForAcceptance (sessionId : String) : Except MacpError Unit :=
  if sessionId.isEmpty || maxSessionIdBytes < sessionId.utf8ByteSize then
    .error .InvalidSessionId
  else
    let cs := sessionId.toList
    if sessionId.utf8ByteSize == 36 && cs.contains '-' && uuidParses cs then
      if uuidCanonical cs && uuidVersionAllowed cs then .ok () else .error .InvalidSessionId
    else if 22 ≤ sessionId.utf8ByteSize && cs.all isBase64UrlChar then .ok ()
    else .error .InvalidSessionId

example : validateSessionIdForAcceptance "11111111-1111-4111-8111-111111111111" = .ok () := by
  decide

example :
    validateSessionIdForAcceptance "AAAAAAAA-1111-4111-8111-111111111111"
      = .error .InvalidSessionId := by
  decide

end MacpRuntime
