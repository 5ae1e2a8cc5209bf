import MacpRuntime.Kernel.Step
import MacpRuntime.Modes.Util

/-!
The handoff mode (`macp-modes/src/mode/handoff.rs`): one party offers responsibility to another, who
accepts or declines; an offer left unanswered is accepted by the runtime once its timeout has
elapsed in unsuspended time.  Whether that is due is decided on the banked total (`rev2ElapsedMs`),
its timestamp is computed by the walk over the pauses (`Session.unsuspendedDeadline`).
-/

namespace MacpRuntime.Handoff

/-! ### The mode state -/

/-- Where an offer stands. -/
inductive Disposition where
  | Offered
  | Accepted
  | Declined
  deriving DecidableEq, Repr

/-- One offer as it stands in the mode state. -/
structure OfferRecord where
  handoffId : String
  targetParticipant : String
  scope : String
  reason : String
  offeredBy : String
  disposition : Disposition
  acceptedBy : Option String
  declinedBy : Option String
  outcomeReason : Option String
  offeredAtMs : Int64
  suspendedMsAtOffer : Int64
  deriving DecidableEq, Repr

/-- One context message as it stands in the mode state. -/
structure ContextRecord where
  contentType : String
  context : Bytes
  sender : String
  deriving DecidableEq, Repr

/-- The whole mode state. -/
structure State where
  offers : Std.ExtTreeMap String OfferRecord
  contexts : Std.ExtTreeMap String (List ContextRecord)

/-- No offer yet. -/
def State.default : State := ⟨∅, ∅⟩

variable (st : State)

/-- `offers.get(..)`. -/
def State.offer? (handoffId : String) : Option OfferRecord := st.offers[handoffId]?

/-- `offers.values().any(..)`. -/
def State.anyOffer (p : OfferRecord → Bool) : Bool :=
  st.offers.toList.any fun e => p e.2

/-- `offers.values().find(..)`, in key order. -/
def State.findOffer (p : OfferRecord → Bool) : Option OfferRecord :=
  (st.offers.toList.find? fun e => p e.2).map (·.2)

/-- Replace the record of an offer. -/
def State.setOffer (handoffId : String) (offer : OfferRecord) : State :=
  { st with offers := st.offers.insert handoffId offer }

/-- A text codec of the mode state that reads back what it wrote; a written state is never
the empty text. -/
structure StateCodec where
  encode : State → Bytes
  decode : Bytes → Option State
  decode_encode : ∀ st, decode (encode st) = some st
  encode_ne_nil : ∀ st, encode st ≠ []

/-- What the mode is given. -/
structure Deps where
  prost : Prost
  codec : StateCodec
  reader : RulesReader
  evaluator : PolicyEvaluator

/-! ### The implicit accept -/

/-- The id namespace reserved for the runtime's implicit accept. -/
def implicitAcceptMessageIdPrefix : String := "implicit-accept:"

/-- The reason the implicit accept carries. -/
def implicitAcceptReason : String := "implicit accept (timeout)"

/-- The first revision that bars a new offer to a target that declined earlier. -/
def declinedTargetBarRev : ℕ := 4

/-- Unsuspended time since the offer, on the banked total. -/
def rev2ElapsedMs (session : Session) (offer : OfferRecord) (nowMs : Int64) : Int64 :=
  let suspendedSinceOffer :=
    max (session.accumulatedSuspendedMs.saturatingSub offer.suspendedMsAtOffer) 0
  (nowMs.saturatingSub offer.offeredAtMs).saturatingSub suspendedSinceOffer

/-- The elapsed time of an offer, by the session's revision; the legacy arm is the raw
difference. -/
def implicitAcceptElapsedMs (session : Session) (offer : OfferRecord) (nowMs : Int64) : Int64 :=
  if 2 ≤ session.semanticsRev then rev2ElapsedMs session offer nowMs
  else nowMs - offer.offeredAtMs

variable (d : Deps)

/-- The rules of a policy, or the defaults when they do not parse. -/
def policyRules (policy : PolicyDefinition) : HandoffPolicyRules :=
  (d.reader.handoffPolicyRules policy.rules).getD .default

variable (session : Session)

/-- The bound policy's timeout, or 0 when no policy is bound. -/
def implicitAcceptTimeoutMs : Int64 :=
  match session.policyDefinition with
  | none => 0
  | some policy => (policyRules d policy).implicitAcceptTimeoutMs.toInt64

/-- Whether some offer has been answered. -/
def commitmentReady (st : State) : Bool :=
  st.anyOffer fun o => o.disposition == .Accepted || o.disposition == .Declined

/-- The synthetic accept of an offer, stamped with its deadline. -/
def implicitAccept (offer : OfferRecord) (deadline : Int64) : Envelope where
  macpVersion := macpVersion
  mode := session.mode
  messageType := "HandoffAccept"
  messageId := implicitAcceptMessageIdPrefix ++ offer.handoffId
  sessionId := session.sessionId
  sender := offer.targetParticipant
  timestampUnixMs := deadline
  payload := d.prost.encodeHandoffAccept
    ⟨offer.handoffId, offer.targetParticipant, implicitAcceptReason, true⟩

/-- The implicit accept that is due at `nowMs`, if one is. -/
def dueSyntheticEnvelope (nowMs : Int64) : Option Envelope :=
  if session.semanticsRev < 2 then none
  else
    let timeout := implicitAcceptTimeoutMs d session
    if timeout ≤ 0 then none
    else if session.modeState.isEmpty then none
    else
      match d.codec.decode session.modeState with
      | none => none
      | some st =>
        match st.findOffer (·.disposition == .Offered) with
        | none => none
        | some offer =>
          if offer.offeredAtMs ≤ 0 then none
          else if implicitAcceptElapsedMs session offer nowMs < timeout then none
          else
            some (implicitAccept d session offer
              (session.unsuspendedDeadline offer.offeredAtMs timeout))

/-! ### The boundary and the sender rule -/

variable (env : Envelope)

/-- From revision 2 a client may neither use a reserved id nor claim to be implicit. -/
def validateClientEnvelope : Except MacpError Unit :=
  if session.semanticsRev < 2 then .ok ()
  else if startsWith env.messageId implicitAcceptMessageIdPrefix then .error .InvalidEnvelope
  else if env.messageType == "HandoffAccept" then
    match d.prost.decodeHandoffAccept env.payload with
    | some payload => if payload.implicit then .error .InvalidPayload else .ok ()
    | none => .ok ()
  else .ok ()

/-- Who may send what. -/
def authorizeSender : Except MacpError Unit :=
  if env.messageType == "Commitment" then
    checkCommitmentAuthority d.reader session env.sender
  else if env.messageType == "HandoffOffer" then
    if env.sender == session.initiatorSender then .ok () else .error .Forbidden
  else if isDeclaredParticipant session.participants env.sender then .ok ()
  else .error .Forbidden

/-- At least two participants, the initiator among them. -/
def onSessionStart : Except MacpError ModeResponse :=
  if session.participants.length < 2 then .error .InvalidPayload
  else if !session.participants.any (· == session.initiatorSender) then .error .InvalidPayload
  else .ok (.PersistState (d.codec.encode .default))

/-! ### The message arms -/

variable (clockMs : Int64)

/-- The record a new offer gets. -/
def newOffer (payload : HandoffOfferPayload) : OfferRecord where
  handoffId := payload.handoffId
  targetParticipant := payload.targetParticipant
  scope := payload.scope
  reason := payload.reason
  offeredBy := env.sender
  disposition := .Offered
  acceptedBy := none
  declinedBy := none
  outcomeReason := none
  offeredAtMs := if 1 ≤ session.semanticsRev then clockMs else env.timestampUnixMs
  suspendedMsAtOffer := session.accumulatedSuspendedMs

variable (st : State)

/-- The response that stores a state. -/
def persist : ModeResponse := .PersistState (d.codec.encode st)

/-- A HandoffOffer: its id must be new. -/
def handleOffer : Except MacpError ModeResponse :=
  match d.prost.decodeHandoffOffer env.payload with
  | none => .error .InvalidPayload
  | some payload =>
    if payload.handoffId.isEmpty || payload.targetParticipant.isEmpty
        || st.offers.contains payload.handoffId
        || !isDeclaredParticipant session.participants payload.targetParticipant
        || payload.targetParticipant == env.sender
        || st.anyOffer (·.disposition == .Offered) || st.anyOffer (·.disposition == .Accepted) then
      .error .InvalidPayload
    else if declinedTargetBarRev ≤ session.semanticsRev
        && st.anyOffer fun o =>
          o.disposition == .Declined && o.targetParticipant == payload.targetParticipant then
      .error .InvalidPayload
    else .ok (persist d (st.setOffer payload.handoffId (newOffer session env clockMs payload)))

/-- A HandoffContext, by whoever made the offer. -/
def handleContext : Except MacpError ModeResponse :=
  match d.prost.decodeHandoffContext env.payload with
  | none => .error .InvalidPayload
  | some payload =>
    match st.offer? payload.handoffId with
    | none => .error .InvalidPayload
    | some offer =>
      if offer.offeredBy ≠ env.sender then .error .Forbidden
      else
        let records := (st.contexts[payload.handoffId]?).getD []
        .ok (persist d { st with
          contexts := st.contexts.insert payload.handoffId
            (records ++ [⟨payload.contentType, payload.context, env.sender⟩]) })

/-- The accept arm for a payload marked implicit.  Identity and shape are checked, never
time: the deadline was decided once, at emission. -/
def dispatchImplicitAccept (payload : HandoffAcceptPayload)
    (st : State) : Except MacpError ModeResponse :=
  if session.semanticsRev < 2 then .error .InvalidPayload
  else
    match st.offer? payload.handoffId with
    | none => .error .InvalidPayload
    | some offer =>
      if offer.targetParticipant ≠ env.sender then .error .Forbidden
      else if payload.acceptedBy ≠ offer.targetParticipant then .error .InvalidPayload
      else if env.messageId ≠ implicitAcceptMessageIdPrefix ++ offer.handoffId then
        .error .InvalidPayload
      else if offer.disposition ≠ .Offered then .error .InvalidPayload
      else
        .ok (persist d (st.setOffer payload.handoffId { offer with
          disposition := .Accepted
          acceptedBy := some offer.targetParticipant
          outcomeReason := some payload.reason }))

/-- A HandoffAccept, or the implicit one. -/
def handleAccept : Except MacpError ModeResponse :=
  match d.prost.decodeHandoffAccept env.payload with
  | none => .error .InvalidPayload
  | some payload =>
    if payload.implicit then dispatchImplicitAccept d session env payload st
    else
      match st.offer? payload.handoffId with
      | none => .error .InvalidPayload
      | some offer =>
        if offer.targetParticipant ≠ env.sender then .error .Forbidden
        else if !payload.acceptedBy.isEmpty && payload.acceptedBy != env.sender then
          .error .InvalidPayload
        else if offer.disposition ≠ .Offered then .error .InvalidPayload
        else
          .ok (persist d (st.setOffer payload.handoffId { offer with
            disposition := .Accepted
            acceptedBy := some env.sender
            outcomeReason := some payload.reason }))

/-- A HandoffDecline. -/
def handleDecline : Except MacpError ModeResponse :=
  match d.prost.decodeHandoffDecline env.payload with
  | none => .error .InvalidPayload
  | some payload =>
    match st.offer? payload.handoffId with
    | none => .error .InvalidPayload
    | some offer =>
      if offer.targetParticipant ≠ env.sender then .error .Forbidden
      else if !payload.declinedBy.isEmpty && payload.declinedBy != env.sender then
        .error .InvalidPayload
      else if offer.disposition ≠ .Offered then .error .InvalidPayload
      else
        .ok (persist d (st.setOffer payload.handoffId { offer with
          disposition := .Declined
          declinedBy := some env.sender
          outcomeReason := some payload.reason }))

/-- The interim acceptance of overdue offers inside a commitment, retired at revision 2. -/
def interimAccept : State :=
  match session.policyDefinition with
  | none => st
  | some policy =>
    let rules := policyRules d policy
    if 0 < rules.implicitAcceptTimeoutMs && decide (session.semanticsRev < 2) then
      { st with offers := st.offers.map fun _ offer =>
          if offer.disposition = .Offered ∧ 0 < offer.offeredAtMs
              ∧ rules.implicitAcceptTimeoutMs.toInt64
                ≤ implicitAcceptElapsedMs session offer clockMs then
            { offer with
              disposition := .Accepted
              acceptedBy := some offer.targetParticipant
              outcomeReason := some implicitAcceptReason }
          else offer }
    else st

/-- A Commitment ends the session. -/
def handleCommitment : Except MacpError ModeResponse :=
  match validateCommitmentPayloadForSession d.prost session env.payload with
  | .error e => .error e
  | .ok commitment =>
    let st := interimAccept d session clockMs st
    if !commitmentReady st then .error .InvalidPayload
    else
      match enforceCommitmentPolicy d.evaluator session .Handoff commitment.outcomePositive with
      | .error e => .error e
      | .ok _ => .ok (.PersistAndResolve (d.codec.encode st) env.payload)

/-- The state a session's bytes hold; no bytes hold the empty state. -/
def decodeState : Option State :=
  if session.modeState.isEmpty then some .default else d.codec.decode session.modeState

/-- One message, at the clock its revision selects. -/
def handleMessage : Except MacpError ModeResponse :=
  match decodeState d session with
  | none => .error .InvalidModeState
  | some st =>
    if env.messageType == "HandoffOffer" then handleOffer d session env clockMs st
    else if env.messageType == "HandoffContext" then handleContext d env st
    else if env.messageType == "HandoffAccept" then handleAccept d session env st
    else if env.messageType == "HandoffDecline" then handleDecline d env st
    else if env.messageType == "Commitment" then handleCommitment d session env clockMs st
    else .error .InvalidPayload

/-- `HandoffMode`: from revision 1 messages are timed by the acceptance clock, before it by
their own timestamp. -/
def mode : Mode where
  onSessionStart := fun session _ => onSessionStart d session
  onMessage := fun session env => handleMessage d session env env.timestampUnixMs
  onMessageAt := fun session env ctx =>
    handleMessage d session env
      (if 1 ≤ session.semanticsRev then ctx.acceptedAtMs else env.timestampUnixMs)
  validateClientEnvelope := validateClientEnvelope d
  dueSyntheticEnvelope := dueSyntheticEnvelope d
  authorizeSender := authorizeSender d

end MacpRuntime.Handoff
