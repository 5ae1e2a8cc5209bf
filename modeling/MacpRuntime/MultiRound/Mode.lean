import MacpRuntime.Lib.JsonCodec
import MacpRuntime.Modes.Stateful

/-!
The multi-round mode (`macp-modes/src/mode/multi_round.rs`): participants contribute values, and
replace them, until all of them are equal.  A contribution is in protobuf or in the older JSON
shape: bytes that are both are read as JSON before revision 3, and as protobuf from it on if they
are its own encoding.
-/

namespace MacpRuntime.MultiRound

open JsonCodec (string bool uint64)

/-! ### The mode state -/

/-- The whole mode state; the contributions are held by sender. -/
structure State where
  round : UInt64
  participants : List String
  contributions : Std.ExtTreeMap String String
  convergenceType : String
  converged : Bool

namespace Codec

/-- The whole state; its last two members were added later and may be absent. -/
def state : JsonCodec State :=
  .record State.mk <|
    .field "round" uint64 (·.round) <|
    .field "participants" string.list (·.participants) <|
    .field "contributions" string.map (·.contributions) <|
    .fieldOr "convergence_type" string "" (·.convergenceType) <|
    .fieldOr "converged" bool false (·.converged) .nil

end Codec

/-! ### Contributions -/

/-- What the mode is given: the protobuf codec of a contribution and the reader of its JSON
shape. -/
structure Deps where
  prost : Prost
  decodeContribute : Bytes → Option String
  encodeContribute : String → Bytes
  contributeJson : Bytes → Option String

variable (d : Deps)

/-- The revision from which canonical protobuf is not read as JSON. -/
def canonicalProtoRev : ℕ := 3

/-- The value of a contribution. -/
def parseContributeValue (payload : Bytes) (semanticsRev : ℕ) : Except MacpError String :=
  if payload.isEmpty then .error .InvalidPayload
  else
    let proto := d.decodeContribute payload
    let trustProto := decide (canonicalProtoRev ≤ semanticsRev)
      && proto.any fun value => d.encodeContribute value == payload
    match d.contributeJson payload, trustProto with
    | some value, false => .ok value
    | _, _ =>
      match proto with
      | some value => .ok value
      | none => .error .InvalidPayload

/-- Every participant has contributed, and all contributions are equal. -/
def checkConvergence (st : State) : Bool :=
  st.participants.all st.contributions.contains
    && (let values := st.contributions.toList.map Prod.snd
        (values.zip values.tail).all fun (v, w) => v == w)

/-! ### The message arms -/

variable (session : Session) (env : Envelope)

/-- Only the initiator commits. -/
def authorizeSender : Except MacpError Unit :=
  if env.messageType == "Commitment" then
    if env.sender ≠ session.initiatorSender then .error .Forbidden else .ok ()
  else defaultAuthorizeSender session env

/-- A session needs participants. -/
def onSessionStart : Except MacpError State :=
  if session.participants.isEmpty then .error .InvalidPayload
  else .ok ⟨0, session.participants, ∅, "all_equal", false⟩

variable (st : State)

/-- The state a contribution leaves: a new value opens a new round. -/
def State.contribute (sender value : String) : State :=
  let st :=
    if st.contributions[sender]? = some value then st
    else { st with
      round := st.round + 1
      contributions := st.contributions.insert sender value }
  if checkConvergence st then { st with converged := true } else st

/-- A Contribute, until the session has converged. -/
def handleContribute : Except MacpError (Outcome State) :=
  if st.converged then .error .InvalidPayload
  else
    match parseContributeValue d env.payload session.semanticsRev with
    | .error e => .error e
    | .ok value => .ok (.persist (st.contribute env.sender value))

/-- The resolution a converged session leaves, as JSON. -/
def resolutionPayload : Bytes :=
  Json.toVec (.object
    [("converged_value",
        string.toJson ((st.contributions.toList.map Prod.snd).headD "")),
      ("round", uint64.toJson st.round),
      ("final", string.map.toJson st.contributions)])

/-- A Commitment on a converged session. -/
def handleCommitment : Except MacpError (Outcome State) :=
  if !st.converged then .error .InvalidPayload
  else
    match validateCommitmentPayloadForSession d.prost session env.payload with
    | .error e => .error e
    | .ok _ => .ok ⟨st, some (resolutionPayload st)⟩

/-- One message on the held state. -/
def handle : Except MacpError (Outcome State) :=
  if env.messageType == "Contribute" then handleContribute d session env st
  else if env.messageType == "Commitment" then handleCommitment d session env st
  else .error .InvalidPayload

/-- Other messages are refused before the state is read. -/
def screen : Except MacpError Unit :=
  if ["Contribute", "Commitment"].contains env.messageType then .ok () else .error .InvalidPayload

/-- `MultiRoundMode`, by its parts.  A session without bytes has no state. -/
def parts : StateMode State where
  encode := Codec.state.encode
  decode := Codec.state.decode
  encode_ne_nil := Codec.state.encode_ne_nil
  absent := none
  start := onSessionStart
  authorize := authorizeSender
  screen := screen
  handle := handle d

lemma parts_decode_encode : (parts d).decode ((parts d).encode st) = some st := by
  dsimp only [parts]
  exact Codec.state.decode_encode st

end MacpRuntime.MultiRound
