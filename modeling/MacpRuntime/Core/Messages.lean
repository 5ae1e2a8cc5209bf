import MacpRuntime.Lib.Protobuf
import MacpRuntime.Core.Data

/-!
The protobuf messages on the wire.  `Prost` is what the kernel assumes of the generated code;
`protobuf` is one such library, with the fields of every message numbered from one in declaration
order.  A decoder merges the fields one after the other: the last occurrence of a singular field
wins, repeated ones accumulate, unknown ones are skipped, and a known field of another wire type
refuses the message.
-/

namespace MacpRuntime

open Protobuf

/-- Merge the fields of a message, numbered up to `last`, into its default value; sizes are not
bounded. -/
def mergeFields {α : Type} (last : ℕ) (merge : α → Field → Option α) (default : α) :
    Bytes → Option α :=
  decodeMessage false (· ≤ last) merge default

/-- A field of a `Root`. -/
def mergeRoot (r : Root) : Field → Option Root
  | (1, v) => v.asString.map fun x => { r with uri := x }
  | (2, v) => v.asString.map fun x => { r with name := x }
  | _ => some r

/-- An entry of a `map<string, bytes>`. -/
def mergeEntry (e : String × Bytes) : Field → Option (String × Bytes)
  | (1, v) => v.asString.map fun x => (x, e.2)
  | (2, v) => v.asBytes.map fun x => (e.1, x)
  | _ => some e

/-- A field of a `SessionStartPayload`; extensions and roots are messages themselves. -/
def mergeSessionStart (p : SessionStartPayload) : Field → Option SessionStartPayload
  | (1, v) => v.asString.map fun x => { p with intent := x }
  | (2, v) => v.asString.map fun x => { p with participants := p.participants ++ [x] }
  | (3, v) => v.asString.map fun x => { p with modeVersion := x }
  | (4, v) => v.asString.map fun x => { p with configurationVersion := x }
  | (5, v) => v.asString.map fun x => { p with policyVersion := x }
  | (6, v) => v.asVarint.map fun n => { p with ttlMs := Int64.ofNat n }
  | (7, v) => v.asString.map fun x => { p with contextId := x }
  | (8, v) => do
    let e ← mergeFields 2 mergeEntry ("", []) (← v.asBytes)
    return { p with extensions := p.extensions.insert e.1 e.2 }
  | (9, v) => do
    let r ← mergeFields 2 mergeRoot ⟨"", ""⟩ (← v.asBytes)
    return { p with roots := p.roots ++ [r] }
  | (10, v) => v.asVarint.map fun n => { p with maxSuspendMs := Int64.ofNat n }
  | _ => some p

/-- A field of a `CommitmentRef`. -/
def mergeCommitmentRef (r : CommitmentRef) : Field → Option CommitmentRef
  | (1, v) => v.asString.map fun x => { r with sessionId := x }
  | (2, v) => v.asString.map fun x => { r with commitmentHash := x }
  | _ => some r

/-- A field of a `CommitmentPayload`; a superseded commitment is merged into the one before. -/
def mergeCommitment (bounded : Bool) (p : CommitmentPayload) : Field → Option CommitmentPayload
  | (1, v) => v.asString.map fun x => { p with commitmentId := x }
  | (2, v) => v.asString.map fun x => { p with action := x }
  | (3, v) => v.asString.map fun x => { p with authorityScope := x }
  | (4, v) => v.asString.map fun x => { p with reason := x }
  | (5, v) => v.asString.map fun x => { p with modeVersion := x }
  | (6, v) => v.asString.map fun x => { p with policyVersion := x }
  | (7, v) => v.asString.map fun x => { p with configurationVersion := x }
  | (8, v) => v.asVarint.map fun n => { p with outcomePositive := n != 0 }
  | (9, v) => do
    let r ← decodeMessage bounded (· ≤ 2) mergeCommitmentRef (p.supersedes.getD ⟨"", ""⟩)
      (← v.asBytes)
    return { p with supersedes := some r }
  | _ => some p

/-- A field of a `HandoffOfferPayload`. -/
def mergeHandoffOffer (p : HandoffOfferPayload) : Field → Option HandoffOfferPayload
  | (1, v) => v.asString.map fun x => { p with handoffId := x }
  | (2, v) => v.asString.map fun x => { p with targetParticipant := x }
  | (3, v) => v.asString.map fun x => { p with scope := x }
  | (4, v) => v.asString.map fun x => { p with reason := x }
  | _ => some p

/-- A field of a `HandoffContextPayload`. -/
def mergeHandoffContext (p : HandoffContextPayload) : Field → Option HandoffContextPayload
  | (1, v) => v.asString.map fun x => { p with handoffId := x }
  | (2, v) => v.asString.map fun x => { p with contentType := x }
  | (3, v) => v.asBytes.map fun x => { p with context := x }
  | _ => some p

/-- A field of a `HandoffAcceptPayload`. -/
def mergeHandoffAccept (p : HandoffAcceptPayload) : Field → Option HandoffAcceptPayload
  | (1, v) => v.asString.map fun x => { p with handoffId := x }
  | (2, v) => v.asString.map fun x => { p with acceptedBy := x }
  | (3, v) => v.asString.map fun x => { p with reason := x }
  | (4, v) => v.asVarint.map fun n => { p with implicit := n != 0 }
  | _ => some p

/-- A field of a `HandoffDeclinePayload`. -/
def mergeHandoffDecline (p : HandoffDeclinePayload) : Field → Option HandoffDeclinePayload
  | (1, v) => v.asString.map fun x => { p with handoffId := x }
  | (2, v) => v.asString.map fun x => { p with declinedBy := x }
  | (3, v) => v.asString.map fun x => { p with reason := x }
  | _ => some p

/-- A text field, left out at its default. -/
def textField (num : ℕ) (s : String) : List Field :=
  if s = "" then [] else [(num, .len (Utf8.encode s))]

/-- A boolean field, left out at its default. -/
def boolField (num : ℕ) (b : Bool) : List Field := if b then [(num, .varint 1)] else []

/-- The fields of a `HandoffAcceptPayload` that are written. -/
def handoffAcceptFields (p : HandoffAcceptPayload) : List Field :=
  textField 1 p.handoffId ++ textField 2 p.acceptedBy ++ textField 3 p.reason
    ++ boolField 4 p.implicit

/-- A `HandoffAcceptPayload` on the wire. -/
def writeHandoffAccept (p : HandoffAcceptPayload) : Bytes := writeFields (handoffAcceptFields p)

/-- The decoder of a `HandoffAcceptPayload`. -/
def readHandoffAccept : Bytes → Option HandoffAcceptPayload :=
  mergeFields 4 mergeHandoffAccept ⟨"", "", "", false⟩

section Fields

variable {num : ℕ} {f : Field}

/-- A field of a text or a message, or a flag that is set. -/
def Standard (f : Field) : Prop := (∃ bytes, f.2 = .len bytes) ∨ f.2 = .varint 1

lemma mem_textField {s : String} (h : f ∈ textField num s) : f.1 = num ∧ Standard f := by
  unfold textField at h
  split at h
  · cases h
  · rw [List.mem_singleton] at h
    subst h
    exact ⟨rfl, Or.inl ⟨_, rfl⟩⟩

lemma mem_boolField {b : Bool} (h : f ∈ boolField num b) : f.1 = num ∧ Standard f := by
  unfold boolField at h
  split at h
  · rw [List.mem_singleton] at h
    subst h
    exact ⟨rfl, Or.inr rfl⟩
  · cases h

/-- A standard field of a message can be written, if it fits where sizes are bounded. -/
lemma Standard.writable {bounded : Bool} (hstd : Standard f) (hpos : 1 ≤ f.1) (hnum : f.1 < 2 ^ 29)
    (hsize : bounded = true → (writeField f).length < 2 ^ 64) : Writable bounded f := by
  obtain ⟨num, v⟩ := f
  refine ⟨hpos, hnum, ?_⟩
  rcases hstd with ⟨bytes, hv⟩ | hv <;> dsimp only at hv <;> subst hv
  · intro hb
    have hlt := hsize hb
    rw [writeField, List.length_append, List.length_append] at hlt
    omega
  · intro _
    norm_num

lemma textField_writable {s : String} (hpos : 1 ≤ num) (hnum : num < 2 ^ 29) :
    ∀ f ∈ textField num s, Writable false f := by
  intro f hf
  obtain ⟨rfl, hstd⟩ := mem_textField hf
  exact hstd.writable hpos hnum nofun

/-- Merging a written text field sets it, whether or not it was left out. -/
lemma foldlM_textField {α : Type} {merge : α → Field → Option α} {s : String} {a : α}
    {set : String → α} (hset : ∀ v, merge a (num, v) = v.asString.map set) (hdef : set "" = a) :
    (textField num s).foldlM merge a = some (set s) := by
  unfold textField
  split
  · next h => rw [List.foldlM_nil, h, hdef]; rfl
  · rw [List.foldlM_cons, hset, WireValue.asString, Utf8.decode_encode]
    rfl

end Fields

lemma readHandoffAccept_write (p : HandoffAcceptPayload) :
    readHandoffAccept (writeHandoffAccept p) = some p := by
  have hfields : ∀ f ∈ handoffAcceptFields p, Writable false f := by
    intro f hf
    simp only [handoffAcceptFields, List.mem_append] at hf
    rcases hf with ((hf | hf) | hf) | hf
    · exact textField_writable (by norm_num) (by norm_num) f hf
    · exact textField_writable (by norm_num) (by norm_num) f hf
    · exact textField_writable (by norm_num) (by norm_num) f hf
    · obtain ⟨hnum, hstd⟩ := mem_boolField hf
      exact hstd.writable (by omega) (by omega) nofun
  have himplicit : (boolField 4 p.implicit).foldlM mergeHandoffAccept
      ⟨p.handoffId, p.acceptedBy, p.reason, false⟩ = some p := by
    obtain ⟨_, _, _, implicit⟩ := p
    cases implicit <;> rfl
  rw [readHandoffAccept, mergeFields, writeHandoffAccept, decodeMessage_writeFields hfields,
    handoffAcceptFields]
  simp only [List.foldlM_append, Option.bind_eq_bind]
  rw [foldlM_textField (by exact fun _ => rfl) (by rfl), Option.bind_some,
    foldlM_textField (by exact fun _ => rfl) (by rfl), Option.bind_some,
    foldlM_textField (by exact fun _ => rfl) (by rfl), Option.bind_some, himplicit]

/-- The wire library with fields numbered in declaration order. -/
def protobuf : Prost where
  decodeSessionStart := mergeFields 10 mergeSessionStart .empty
  decodeCommitment :=
    mergeFields 9 (mergeCommitment false) ⟨"", "", "", "", "", "", "", false, none⟩
  decodeHandoffOffer := mergeFields 4 mergeHandoffOffer ⟨"", "", "", ""⟩
  decodeHandoffContext := mergeFields 3 mergeHandoffContext ⟨"", "", []⟩
  decodeHandoffAccept := readHandoffAccept
  decodeHandoffDecline := mergeFields 3 mergeHandoffDecline ⟨"", "", ""⟩
  encodeHandoffAccept := writeHandoffAccept
  decode_encodeHandoffAccept := readHandoffAccept_write

end MacpRuntime
