import MacpRuntime.Lib.JsonCodec
import MacpRuntime.Core.Messages
import MacpRuntime.Kernel.Replay
import MacpRuntime.Handoff.Mode
import MacpRuntime.Policy.Schemas

/-!
The serialized forms the handoff mode depends on, concretely: its state as `serde_json` writes it,
the rules of a policy as `serde` reads them, and from them and the protobuf messages the
dependencies `deps` of a mode whose evaluator allows everything.  `sampleStart` is a start this mode
accepts, under a policy whose offers are accepted after 100 ms.
-/

namespace MacpRuntime.Handoff

open JsonCodec (string int64 byte)

/-! ### The mode state -/

namespace Codec

/-- The dispositions by name. -/
def disposition : JsonCodec Disposition :=
  .variant [("Offered", .Offered), ("Accepted", .Accepted), ("Declined", .Declined)]

/-- A string or `null`. -/
def optionalText : JsonCodec (Option String) := string.option fun _ h => by cases h

/-- Bytes, as an array of numbers. -/
def bytes : JsonCodec Bytes := byte.list

/-- An offer; optional members and those added later may be absent. -/
def offer : JsonCodec OfferRecord :=
  .record OfferRecord.mk <|
    .field "handoff_id" string (·.handoffId) <|
    .field "target_participant" string (·.targetParticipant) <|
    .field "scope" string (·.scope) <|
    .field "reason" string (·.reason) <|
    .field "offered_by" string (·.offeredBy) <|
    .field "disposition" disposition (·.disposition) <|
    .fieldOr "accepted_by" optionalText none (·.acceptedBy) <|
    .fieldOr "declined_by" optionalText none (·.declinedBy) <|
    .fieldOr "outcome_reason" optionalText none (·.outcomeReason) <|
    .fieldOr "offered_at_ms" int64 0 (·.offeredAtMs) <|
    .fieldOr "suspended_ms_at_offer" int64 0 (·.suspendedMsAtOffer) .nil

/-- A context. -/
def context : JsonCodec ContextRecord :=
  .record ContextRecord.mk <|
    .field "content_type" string (·.contentType) <|
    .field "context" bytes (·.context) <|
    .field "sender" string (·.sender) .nil

/-- The whole state. -/
def state : JsonCodec State :=
  .record State.mk <|
    .field "offers" offer.map (·.offers) <|
    .field "contexts" context.list.map (·.contexts) .nil

end Codec

/-- The codec of the mode state. -/
def jsonState : StateCodec where
  encode := Codec.state.encode
  decode := Codec.state.decode
  decode_encode := Codec.state.decode_encode
  encode_ne_nil := Codec.state.encode_ne_nil

/-- The dependencies of a mode whose evaluator allows every commitment. -/
def deps : Deps := ⟨protobuf, jsonState, .serde, fun _ => .Allow []⟩

/-! ### A sample session -/

/-- A policy under which an unanswered offer is accepted after 100 ms. -/
def samplePolicy : PolicyDefinition where
  policyId := "p"
  mode := "*"
  description := ""
  rules := .object
    [("acceptance", .object [("implicit_accept_timeout_ms", .number (.posInt 100))])]
  schemaVersion := 1

/-- Participants `a` and `b`, versions `1`, policy `p`, a TTL of 1000 ms and the given
suspension cap, as a field on the wire. -/
def sampleStart (cap : Bytes) : Envelope :=
  sampleMessage "macp.mode.handoff.v1" "SessionStart" "m0" "a"
    ([0x12, 1, 97, 0x12, 1, 98, 0x1A, 1, 49, 0x22, 1, 49, 0x2A, 1, 112, 0x30, 0xE8, 7] ++ cap)

/-- The session a sample start becomes. -/
def sampleSession (startedAtMs : Int64) : Session :=
  { sampleSessionOf "macp.mode.handoff.v1" (some samplePolicy) (jsonState.encode .default) with
    ttlExpiry := startedAtMs + 1000
    startedAtUnixMs := startedAtMs
    participants := ["a", "b"] }

/-- The offer `h` to participant `b`. -/
def sampleOffer : Envelope :=
  sampleMessage "macp.mode.handoff.v1" "HandoffOffer" "m1" "a" [0x0A, 1, 104, 0x12, 1, 98]

/-- The record of the sample offer. -/
def sampleRecord (offeredAtMs suspendedMsAtOffer : Int64) : OfferRecord where
  handoffId := "h"
  targetParticipant := "b"
  scope := ""
  reason := ""
  offeredBy := "a"
  disposition := .Offered
  acceptedBy := none
  declinedBy := none
  outcomeReason := none
  offeredAtMs := offeredAtMs
  suspendedMsAtOffer := suspendedMsAtOffer

lemma sampleStart_accepted :
    acceptSessionStart protobuf (sampleStart []) 5 (mode deps) (some samplePolicy) {}
      = .ok (sampleSession 5) := by
  rfl

lemma sampleSession_begun : SessionBegun deps.prost (mode deps) (sampleSession 5) :=
  .accepted sampleStart_accepted

end MacpRuntime.Handoff
