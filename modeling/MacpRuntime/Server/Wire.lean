import MacpRuntime.Handoff.Codec
import MacpRuntime.Server.Faithful
import MacpRuntime.Server.Runtime

/-!
The formats the server depends on, concretely: a stored session as `serde_json` writes it, whose
exact rules are those without floats, the payloads of the control entries, with fields numbered in
declaration order, and `sampleRuntime`, a runtime with the handoff mode and one policy.
-/

namespace MacpRuntime

open Std

namespace PersistedCodec

open JsonCodec (string int64 byte fromJson_toJson optionInt64)
open JsonForm (literal)

/-- The states by name. -/
def sessionState : JsonCodec SessionState :=
  .variant
    [("Open", .Open), ("Suspended", .Suspended), ("Resolved", .Resolved),
      ("Expired", .Expired), ("Cancelled", .Cancelled)]

/-- Bytes, as an array of numbers. -/
def bytes : JsonCodec Bytes := byte.list

/-- Bytes or `null`. -/
def optionalBytes : JsonCodec (Option Bytes) := bytes.option fun _ h => Json.noConfusion h

/-- A list of strings. -/
def texts : JsonCodec (List String) := string.list

/-- A pair is an array of two. -/
def interval : JsonCodec (Int64 × Int64) where
  toJson i := .array [int64.toJson i.1, int64.toJson i.2]
  fromJson
    | .array [from', until'] => do
      let from' ← int64.fromJson from'
      let until' ← int64.fromJson until'
      return (from', until')
    | _ => none
  fromJson_toJson i := by simp [fromJson_toJson]
  literal i := ⟨literal _ _, literal _ _, trivial⟩

/-- A root. -/
def root : JsonCodec PersistedRoot :=
  .record PersistedRoot.mk <|
    .field "uri" string (·.uri) <|
    .field "name" string (·.name) .nil

/-- A revision or schema version; the reader refuses what does not fit 32 bits. -/
def revision : JsonForm ℕ where
  toJson n := .number (.posInt (.ofNat n))
  fromJson
    | .number (.posInt n) => if n.toNat < 2 ^ 32 then some n.toNat else none
    | _ => none
  literal _ := trivial

lemma reread_revision {n : ℕ} (h : n < 2 ^ 32) : revision.reread n = some n := by
  have hval : (UInt64.ofNat n).toNat = n := UInt64.toNat_ofNat_of_lt (h.trans (by decide))
  rw [JsonForm.reread, revision]
  dsimp only
  rw [hval, if_pos h]

/-! ### Policies -/

/-- The fields of a bound policy; its rules are a JSON value already. -/
def policyFields :=
  (.field "policy_id" string (·.policyId) <|
  .field "mode" string (·.mode) <|
  .field "description" string (·.description) <|
  .value "rules" id some none (·.rules) <|
  .form "schema_version" revision none (·.schemaVersion) .nil : JsonFields PolicyDefinition _)

/-- A bound policy, or `null`. -/
def optionalPolicy : Option PolicyDefinition → Json
  | none => .null
  | some d => .object (policyFields.write d)

/-- The bound policy of a value. -/
def readOptionalPolicy : Json → Option (Option PolicyDefinition)
  | .null => some none
  | .object ms => (policyFields.read PolicyDefinition.mk ms).map some
  | _ => none

/-! ### Sessions -/

/-- The fields of a stored session. -/
def fields :=
  (.form "schema_version" revision (some 2) (·.schemaVersion) <|
  .field "session_id" string (·.sessionId) <|
  .field "state" sessionState (·.state) <|
  .field "ttl_expiry" int64 (·.ttlExpiry) <|
  .fieldOr "ttl_ms" int64 0 (·.ttlMs) <|
  .field "started_at_unix_ms" int64 (·.startedAtUnixMs) <|
  .fieldOr "resolution" optionalBytes none (·.resolution) <|
  .field "mode" string (·.mode) <|
  .field "mode_state" bytes (·.modeState) <|
  .field "participants" texts (·.participants) <|
  .field "seen_message_ids" texts (·.seenMessageIds) <|
  .field "intent" string (·.intent) <|
  .field "mode_version" string (·.modeVersion) <|
  .field "configuration_version" string (·.configurationVersion) <|
  .field "policy_version" string (·.policyVersion) <|
  .fieldOr "context_id" string "" (·.contextId) <|
  .fieldOr "extensions" bytes.map ∅ (·.extensions) <|
  .field "roots" root.list (·.roots) <|
  .field "initiator_sender" string (·.initiatorSender) <|
  .value "policy_definition" optionalPolicy readOptionalPolicy (some none) (·.policyDefinition) <|
  .fieldOr "suspended_at_ms" optionInt64 none (·.suspendedAtMs) <|
  .fieldOr "accumulated_suspended_ms" int64 0 (·.accumulatedSuspendedMs) <|
  .fieldOr "suspension_intervals" interval.list [] (·.suspensionIntervals) <|
  .form "semantics_rev" revision (some 0) (·.semanticsRev) <|
  .fieldOr "max_suspend_ms" int64 0 (·.maxSuspendMs) .nil : JsonFields PersistedSession _)

/-- Whether the revisions of a stored session fit their fields. -/
def fits (p : PersistedSession) : Bool :=
  decide (p.schemaVersion < 2 ^ 32) && decide (p.semanticsRev < 2 ^ 32)
    && p.policyDefinition.all fun d => d.schemaVersion < 2 ^ 32

lemma readOptionalPolicy_optionalPolicy {o : Option PolicyDefinition}
    (h : o.all (fun d => d.schemaVersion < 2 ^ 32) = true) :
    readOptionalPolicy (optionalPolicy o) = some o := by
  cases o with
  | none => rfl
  | some d =>
    have hd : d.schemaVersion < 2 ^ 32 := of_decide_eq_true h
    have hread : policyFields.read .mk (policyFields.write d) = some d := by
      rw [policyFields.read_write_self (by decide), policyFields]
      simp [reread_revision hd]
    rw [optionalPolicy, readOptionalPolicy, hread, Option.map_some]

lemma read_fields {p : PersistedSession} (h : fits p = true) :
    fields.read .mk (fields.write p) = some p := by
  rw [fits, Bool.and_eq_true, Bool.and_eq_true, decide_eq_true_eq, decide_eq_true_eq] at h
  obtain ⟨⟨hschema, hrev⟩, hpolicy⟩ := h
  rw [fields.read_write_self (by decide), fields]
  simp [reread_revision hschema, reread_revision hrev, readOptionalPolicy_optionalPolicy hpolicy]

lemma literal_fields {p : PersistedSession}
    (h : ∀ d ∈ p.policyDefinition, d.rules.Literal) : (Json.object (fields.write p)).Literal := by
  have hpolicy : (optionalPolicy p.policyDefinition).Literal := by
    cases hp : p.policyDefinition with
    | none => trivial
    | some d => exact ⟨trivial, policyFields.literal d ⟨h d hp, trivial⟩⟩
  exact ⟨trivial, fields.literal p ⟨hpolicy, trivial⟩⟩

end PersistedCodec

/-- The codec of a stored session. -/
def jsonSession : SessionSerde where
  encode p :=
    if PersistedCodec.fits p then some (Json.toVec (.object (PersistedCodec.fields.write p)))
    else none
  decode bytes := do
    let value ← Json.fromSlice bytes
    match value with
    | .object ms => PersistedCodec.fields.read .mk ms
    | _ => none
  Exact := Json.Integral
  decode_encode p bytes hexact h := by
    split_ifs at h with hfits
    cases h
    rw [Json.fromSlice_toVec (PersistedCodec.literal_fields fun d hd => (hexact d hd).literal)]
    exact PersistedCodec.read_fields hfits

/-- A stored session as it is read back from its text. -/
def PersistedSession.reread (t : FloatText) (p : PersistedSession) : Option PersistedSession :=
  match p.policyDefinition with
  | none => some p
  | some d => (t.reread d.rules).map fun rules =>
    { p with policyDefinition := some { d with rules := rules } }

lemma jsonSession_decode_encode {p : PersistedSession} {bytes : Bytes}
    (hliteral : ∀ d ∈ p.policyDefinition, d.rules.Literal)
    (h : jsonSession.encode p = some bytes) : jsonSession.decode bytes = some p := by
  simp only [jsonSession] at h ⊢
  split_ifs at h with hfits
  cases h
  rw [Json.fromSlice_toVec (PersistedCodec.literal_fields hliteral)]
  exact PersistedCodec.read_fields hfits

/-- The codec of a stored session with a printer and a parser of floats. -/
def jsonSessionOf (t : FloatText) : SessionSerde where
  encode := jsonSession.encode
  decode bytes := (jsonSession.decode bytes).bind (·.reread t)
  Exact rules := rules.Literal ∧ t.reread rules = some rules
  decode_encode p bytes hexact h := by
    rw [jsonSession_decode_encode (fun d hd => (hexact d hd).1) h, Option.bind_some,
      PersistedSession.reread]
    split
    · rfl
    · rename_i d hd
      rw [(hexact d hd).2, Option.map_some, ← hd]

/-- What is read back of a stored session: the session, up to the numbers in its policy's rules. -/
lemma jsonSessionOf_decode_eq_some {t : FloatText} {p p' : PersistedSession} {bytes : Bytes}
    (hliteral : ∀ d ∈ p.policyDefinition, d.rules.Literal)
    (hencode : (jsonSessionOf t).encode p = some bytes)
    (hdecode : (jsonSessionOf t).decode bytes = some p') :
    ∃ policy, p' = { p with policyDefinition := policy } ∧ policy.isSome = p.policyDefinition.isSome
      ∧ ∀ d ∈ policy, d.rules.Literal := by
  simp only [jsonSessionOf] at hencode hdecode
  rw [jsonSession_decode_encode hliteral hencode, Option.bind_some,
    PersistedSession.reread] at hdecode
  split at hdecode
  · cases hdecode
    exact ⟨p.policyDefinition, rfl, rfl, hliteral⟩
  · rename_i d hd
    obtain ⟨rules, hrules, rfl⟩ := Option.map_eq_some_iff.mp hdecode
    refine ⟨some { d with rules := rules }, rfl, by rw [hd]; rfl, ?_⟩
    rintro _ ⟨⟩
    exact FloatText.literal_reread (hliteral d hd) hrules

/-- The payloads of the control entries. -/
def controlProtobuf : ControlProst where
  encodeSessionCancel reason cancelledBy :=
    Protobuf.writeFields (textField 1 reason ++ textField 2 cancelledBy)
  encodeSessionSuspend reason suspendedBy :=
    Protobuf.writeFields (textField 1 reason ++ textField 2 suspendedBy)
  encodeSessionResume reason resumedBy bankedMs :=
    Protobuf.writeFields (textField 1 reason ++ textField 2 resumedBy
      ++ [(3, .varint bankedMs.toUInt64.toNat)])

/-! ### A runtime -/

/-- The registration of the handoff mode. -/
def handoffRegistration : ModeRegistration where
  modeName := "macp.mode.handoff.v1"
  factory := Handoff.mode Handoff.deps
  descriptor := some ⟨"macp.mode.handoff.v1", "1", ["SessionStart", "HandoffOffer"], ["Commitment"]⟩
  standardsTrack := true
  builtin := true
  strictSessionStart := true

/-- A runtime with one mode and one policy, without checkpoints and compaction. -/
def sampleRuntime : Runtime where
  prost := protobuf
  control := controlProtobuf
  serde := jsonSession
  registries :=
    ⟨⟨(∅ : ExtTreeMap String ModeRegistration).insert "macp.mode.handoff.v1"
        handoffRegistration⟩,
      ⟨(∅ : ExtTreeMap String PolicyDefinition).insert "p" Handoff.samplePolicy,
        fun _ => .ok ()⟩⟩
  checkpointInterval := 0
  compactTerminalLogs := false

lemma sampleRuntime_instantiate {name : String} {mode : Mode}
    (h : sampleRuntime.registries.modes.instantiate name = .ok mode) :
    mode = Handoff.mode Handoff.deps := by
  rw [ModeRegistry.instantiate, ModeRegistry.getMode] at h
  have hget : sampleRuntime.registries.modes.entries[name]?
      = if compare "macp.mode.handoff.v1" name = .eq then some handoffRegistration else none := by
    rw [sampleRuntime]
    dsimp only
    rw [ExtTreeMap.getElem?_insert, ExtTreeMap.getElem?_empty]
  rw [hget] at h
  split_ifs at h
  exact (Except.ok.inj h).symm

lemma sampleRuntime_shipped : sampleRuntime.registries.modes.Shipped sampleRuntime.prost := by
  intro name mode hmode
  obtain rfl := sampleRuntime_instantiate hmode
  exact .inl (.handoff Handoff.deps)

end MacpRuntime
