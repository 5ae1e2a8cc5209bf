import MacpRuntime.Core.Session

/-!
The flattened session that checkpoints hold (`macp-storage/src/registry.rs`).  The activity maps are
not kept, and a TTL that is not positive is computed anew from the deadline; a session with a TTL
comes back without its activity maps (`toSession_ofSession`).
-/

namespace MacpRuntime

open Std

/-- A root as it is stored. -/
structure PersistedRoot where
  uri : String
  name : String
  deriving DecidableEq, Repr

/-- A session as it is stored. -/
structure PersistedSession where
  schemaVersion : ℕ
  sessionId : String
  state : SessionState
  ttlExpiry : Int64
  ttlMs : Int64
  startedAtUnixMs : Int64
  resolution : Option Bytes
  mode : String
  modeState : Bytes
  participants : List String
  seenMessageIds : List String
  intent : String
  modeVersion : String
  configurationVersion : String
  policyVersion : String
  contextId : String
  extensions : ExtTreeMap String Bytes
  roots : List PersistedRoot
  initiatorSender : String
  policyDefinition : Option PolicyDefinition
  suspendedAtMs : Option Int64
  accumulatedSuspendedMs : Int64
  suspensionIntervals : List (Int64 × Int64)
  semanticsRev : ℕ
  maxSuspendMs : Int64

namespace PersistedSession

/-- `From<&Session>`. -/
def ofSession (session : Session) : PersistedSession where
  schemaVersion := 2
  sessionId := session.sessionId
  state := session.state
  ttlExpiry := session.ttlExpiry
  ttlMs := session.ttlMs
  startedAtUnixMs := session.startedAtUnixMs
  resolution := session.resolution
  mode := session.mode
  modeState := session.modeState
  participants := session.participants
  seenMessageIds := session.seenMessageIds.toList
  intent := session.intent
  modeVersion := session.modeVersion
  configurationVersion := session.configurationVersion
  policyVersion := session.policyVersion
  contextId := session.contextId
  extensions := session.extensions
  roots := session.roots.map fun root => ⟨root.uri, root.name⟩
  initiatorSender := session.initiatorSender
  policyDefinition := session.policyDefinition
  suspendedAtMs := session.suspendedAtMs
  accumulatedSuspendedMs := session.accumulatedSuspendedMs
  suspensionIntervals := session.suspensionIntervals
  semanticsRev := session.semanticsRev
  maxSuspendMs := session.maxSuspendMs

/-- `From<PersistedSession> for Session`. -/
def toSession (p : PersistedSession) : Session :=
  { Session.builder p.sessionId p.mode p.initiatorSender with
    state := p.state
    ttlExpiry := p.ttlExpiry
    ttlMs := if 0 < p.ttlMs then p.ttlMs else p.ttlExpiry.saturatingSub p.startedAtUnixMs
    startedAtUnixMs := p.startedAtUnixMs
    resolution := p.resolution
    modeState := p.modeState
    participants := p.participants
    seenMessageIds := ExtTreeSet.ofList p.seenMessageIds
    intent := p.intent
    modeVersion := p.modeVersion
    configurationVersion := p.configurationVersion
    policyVersion := p.policyVersion
    contextId := p.contextId
    extensions := p.extensions
    roots := p.roots.map fun root => ⟨root.uri, root.name⟩
    policyDefinition := p.policyDefinition
    suspendedAtMs := p.suspendedAtMs
    accumulatedSuspendedMs := p.accumulatedSuspendedMs
    suspensionIntervals := p.suspensionIntervals
    semanticsRev := p.semanticsRev
    maxSuspendMs := p.maxSuspendMs }

end PersistedSession

/-- The JSON codec of a stored session.  A float of a policy's rules is read back to the nearest
value the reader can do, so `Exact` names the rules that come back as they were written. -/
structure SessionSerde where
  encode : PersistedSession → Option Bytes
  decode : Bytes → Option PersistedSession
  Exact : Json → Prop
  decode_encode : ∀ p bytes, (∀ d ∈ p.policyDefinition, Exact d.rules) → encode p = some bytes →
    decode bytes = some p

/-! ### The round trip -/

/-- A session without its activity maps. -/
def Session.forgetActivity (s : Session) : Session :=
  { s with participantMessageCounts := ∅, participantLastSeen := ∅ }

@[simp] lemma Session.forgetActivity_bindings (s : Session) :
    s.forgetActivity.bindings = s.bindings := rfl

/-- The list of a set's elements holds that set. -/
lemma ofList_toList (ids : ExtTreeSet String) : ExtTreeSet.ofList ids.toList = ids := by
  refine ExtTreeSet.ext_mem fun id => ?_
  rw [ExtTreeSet.mem_ofList, List.contains_iff_mem, ExtTreeSet.mem_toList]

/-- **A session with a TTL survives storage, except for its activity maps.** -/
theorem PersistedSession.toSession_ofSession {s : Session} (h : 0 < s.ttlMs) :
    (PersistedSession.ofSession s).toSession = s.forgetActivity := by
  have hroots : (s.roots.map fun root => (⟨root.uri, root.name⟩ : PersistedRoot)).map
      (fun root => (⟨root.uri, root.name⟩ : Root)) = s.roots := by
    rw [List.map_map]
    exact List.map_id _
  simp only [toSession, ofSession, h, ↓reduceIte, hroots, ofList_toList]
  rfl

end MacpRuntime
