import MacpRuntime.Core.SessionStart
import MacpRuntime.Lib.Base64
import MacpRuntime.Lib.Smallest

/-!
Listing the sessions page by page: `registry.rs` (`session_ids_after`), `pagination.rs` and
`server.rs` (`list_sessions`).  The registry can change between the scan of a request and each
fetch. `traversal_complete`: **a client that passes each token back meets no error, is given ids in
ascending order, misses no session that stayed registered, and comes to an end when only finitely
many ids ever appear**.
-/

namespace MacpRuntime

/-! ### The registry and the order of ids -/

/-- The registered sessions.  Each stands under its own id, which was accepted, and their number
is a `usize`. -/
structure SessionRegistry where
  sessions : Std.ExtTreeMap String Session
  sessionId_eq : ∀ id (s : Session), sessions[id]? = some s → s.sessionId = id
  accepted : ∀ id ∈ sessions, validateSessionIdForAcceptance id = .ok ()
  size_lt : sessions.size < 2 ^ 64

/-- Ids in byte order. -/
def IdLe (a b : String) : Prop := Utf8.bytes a ≤ Utf8.bytes b

instance : DecidableRel IdLe := fun a b => inferInstanceAs (Decidable (Utf8.bytes a ≤ Utf8.bytes b))

instance : Std.Total IdLe := ⟨fun a b => le_total (Utf8.bytes a) (Utf8.bytes b)⟩

instance : IsTrans String IdLe := ⟨fun _ _ _ => le_trans⟩

instance : Std.Antisymm IdLe := ⟨fun _ _ h h' => Utf8.bytes_injective (le_antisymm h h')⟩

/-- Whether an id comes after the cursor; every id comes after no cursor. -/
def isAfter (after : Option String) (key : String) : Bool :=
  after.all fun a => decide (Utf8.bytes a < Utf8.bytes key)

/-- The `limit` smallest ids after the cursor, by one pass over the keys in their order in the
map. -/
def sessionIdsAfter (keys : List String) (after : Option String) (limit : ℕ) : List String :=
  if limit = 0 then []
  else
    keys.foldl
      (fun heap key => if isAfter after key then Smallest.push IdLe limit heap key else heap) []

/-- The ids after the cursor, in byte order. -/
def idsFrom (keys : List String) (after : Option String) : List String :=
  (keys.filter (isAfter after)).insertionSort IdLe

variable {after : Option String} {id token : String} {keys : List String}

lemma mem_idsFrom : id ∈ idsFrom keys after ↔ id ∈ keys ∧ isAfter after id = true := by
  rw [idsFrom, (List.perm_insertionSort IdLe _).mem_iff, List.mem_filter]

lemma idsFrom_pairwise (hkeys : keys.Nodup) (after : Option String) :
    (idsFrom keys after).Pairwise fun a b => Utf8.bytes a < Utf8.bytes b := by
  have hsorted : (idsFrom keys after).Pairwise IdLe := List.pairwise_insertionSort IdLe _
  have hnodup : (idsFrom keys after).Nodup :=
    (List.perm_insertionSort IdLe _).nodup_iff.mpr (hkeys.filter _)
  refine (hsorted.and hnodup).imp ?_
  intro a b h
  exact lt_of_le_of_ne h.1 fun heq => h.2 (Utf8.bytes_injective heq)

/-- The heap selects the first ids of the sorted ones. -/
lemma sessionIdsAfter_eq (keys : List String) (after : Option String) (limit : ℕ) :
    sessionIdsAfter keys after limit = (idsFrom keys after).take limit := by
  rw [sessionIdsAfter]
  split
  · next h => rw [h, List.take_zero]
  · rw [← List.foldl_filter, Smallest.foldl_push IdLe limit
      (List.pairwise_insertionSort IdLe _) (List.perm_insertionSort IdLe _), idsFrom]

/-! ### Page tokens -/

/-- What a token begins with. -/
def tokenVersionPrefix : String := "v1:"

/-- The longest token. -/
def maxPageTokenChars : ℕ := 1024

/-- Why a token is refused. -/
inductive PageTokenError where
  | TooLong
  | NotBase64
  | NotUtf8
  | WrongVersion
  | EmptyCursor
deriving DecidableEq

/-- The token of an id. -/
def encodePageToken (sessionId : String) : String :=
  Base64.encode Base64.urlSafe (Utf8.encode (tokenVersionPrefix ++ sessionId))

/-- The id of a token. -/
def decodePageToken (token : String) : Except PageTokenError String :=
  if maxPageTokenChars < token.utf8ByteSize then .error .TooLong
  else
    match Base64.decode Base64.urlSafe token with
    | none => .error .NotBase64
    | some bytes =>
      match Utf8.decode bytes with
      | none => .error .NotUtf8
      | some plaintext =>
        match Utf8.stripPrefix tokenVersionPrefix plaintext with
        | none => .error .WrongVersion
        | some cursor => if cursor.isEmpty then .error .EmptyCursor else .ok cursor

lemma accepted_size (h : validateSessionIdForAcceptance id = .ok ()) :
    id.isEmpty = false ∧ id.utf8ByteSize ≤ maxSessionIdBytes := by
  unfold validateSessionIdForAcceptance at h
  split at h
  · cases h
  · next hif =>
      rw [Bool.or_eq_true, decide_eq_true_eq, not_or, Bool.not_eq_true] at hif
      exact ⟨hif.1, by omega⟩

lemma length_encode_token (id : String) :
    (Utf8.encode (tokenVersionPrefix ++ id)).length = 3 + id.utf8ByteSize := by
  rw [Utf8.length_encode, String.utf8ByteSize_append]
  rfl

/-- The token of an acceptable id is read back. -/
lemma decodePageToken_encodePageToken (h : validateSessionIdForAcceptance id = .ok ()) :
    decodePageToken (encodePageToken id) = .ok id := by
  obtain ⟨hempty, hsize⟩ := accepted_size h
  have hlen : ¬ maxPageTokenChars < (encodePageToken id).utf8ByteSize := by
    rw [encodePageToken, Base64.utf8ByteSize_encode, length_encode_token]
    unfold maxPageTokenChars maxSessionIdBytes at *
    omega
  rw [decodePageToken, if_neg hlen, encodePageToken, Base64.decode_encode]
  dsimp only
  rw [Utf8.decode_encode]
  dsimp only
  rw [Utf8.stripPrefix_append]
  dsimp only
  rw [if_neg (by rw [hempty]; exact Bool.false_ne_true)]

lemma encodePageToken_ne_empty (id : String) : encodePageToken id ≠ "" := by
  intro h
  have hsize := Base64.utf8ByteSize_encode Base64.urlSafe
    (Utf8.encode (tokenVersionPrefix ++ id))
  rw [← encodePageToken, h, length_encode_token] at hsize
  change 0 = _ at hsize
  omega

/-! ### One request -/

/-- What a participant has done. -/
structure ParticipantActivity where
  participantId : String
  lastMessageAtUnixMs : Int64
  messageCount : UInt32

/-- A session as it is listed. -/
structure SessionMetadata where
  sessionId : String
  mode : String
  state : SessionState
  startedAtUnixMs : Int64
  expiresAtUnixMs : Int64
  modeVersion : String
  configurationVersion : String
  policyVersion : String
  participants : List String
  participantActivity : List ParticipantActivity
  initiator : String
  contextId : String
  extensionKeys : List String

/-- The listing of a session. -/
def sessionToMetadata (s : Session) : SessionMetadata where
  sessionId := s.sessionId
  mode := s.mode
  state := s.state
  startedAtUnixMs := s.startedAtUnixMs
  expiresAtUnixMs := s.ttlExpiry
  modeVersion := s.modeVersion
  configurationVersion := s.configurationVersion
  policyVersion := s.policyVersion
  participants := s.participants
  participantActivity := s.participantMessageCounts.toList.map fun (pid, count) =>
    ⟨pid, (s.participantLastSeen[pid]?).getD 0, count⟩
  initiator := s.initiatorSender
  contextId := s.contextId
  extensionKeys := s.extensions.keys

/-- The configured page sizes. -/
structure SecurityLayer where
  listSessionsDefaultPageSize : ℕ
  listSessionsMaxPageSize : ℕ

/-- One page, with the next token. -/
structure ListSessionsResponse where
  sessions : List SessionMetadata
  nextPageToken : String

/-- What one request meets: its page size, the registry it scans with the order of the keys in
the map, and the registry as it is when the id at each position of the page is fetched. -/
structure Visit where
  pageSize : Int32
  registry : SessionRegistry
  keys : List String
  perm : keys.Perm registry.sessions.keys
  fetched : ℕ → SessionRegistry

/-- The size a request gets. -/
def effectivePageSize (security : SecurityLayer) (pageSize : Int32) : ℕ :=
  max 1 (if pageSize = 0 then security.listSessionsDefaultPageSize
    else min pageSize.toInt.toNat security.listSessionsMaxPageSize)

/-- The cursor of a token; an empty token has none. -/
def pageCursor (pageToken : String) : Except (MacpError × String) (Option String) :=
  if pageToken.isEmpty then .ok none
  else
    match decodePageToken pageToken with
    | .ok cursor => .ok (some cursor)
    | .error _ =>
      .error (.InvalidRequest, "INVALID_ARGUMENT: page_token is not a valid continuation token")

/-- The session of an id, if it is still registered at the time of its fetch. -/
def fetchSession (fetched : ℕ → SessionRegistry) (id : String × ℕ) : Option SessionMetadata :=
  (fetched id.2).sessions[id.1]?.map sessionToMetadata

/-- The page of the ids read, one more than the page holds, and the token for the rest.  The
cursor is the last id of the page, whether or not its session can still be fetched. -/
def listPage (effective : ℕ) (ids : List String) (fetched : ℕ → SessionRegistry) :
    ListSessionsResponse :=
  let pageIds := ids.take effective
  { sessions := pageIds.zipIdx.filterMap (fetchSession fetched)
    nextPageToken :=
      if effective < ids.length then (pageIds.getLast?.map encodePageToken).getD "" else "" }

/-- A request for a page.  The handler authenticates the caller first, which is not modelled: this
is what an authenticated one is answered. -/
def listSessions (security : SecurityLayer) (visit : Visit) (pageToken : String) :
    Except (MacpError × String) ListSessionsResponse :=
  if visit.pageSize < 0 then
    .error (.InvalidRequest, "INVALID_ARGUMENT: page_size must not be negative")
  else
    (pageCursor pageToken).map fun cursor =>
      let effective := effectivePageSize security visit.pageSize
      listPage effective
        (sessionIdsAfter visit.keys cursor (min (effective + 1) (2 ^ 64 - 1))) visit.fetched

/-- The ids a response delivers. -/
def ListSessionsResponse.ids (r : ListSessionsResponse) : List String :=
  r.sessions.map (·.sessionId)

/-- A traversal after some requests: the token the client holds and the ids it received.  The
client asks again as long as the token is not empty. -/
inductive Traversal (security : SecurityLayer) (visit : ℕ → Visit) :
    ℕ → String → List String → Prop
  | start : Traversal security visit 0 "" []
  | next {k : ℕ} {token : String} {ids : List String} {response : ListSessionsResponse} :
      Traversal security visit k token ids → k = 0 ∨ token ≠ "" →
      listSessions security (visit k) token = .ok response →
      Traversal security visit (k + 1) response.nextPageToken (ids ++ response.ids)

/-- The session under an id is there whenever the request looks. -/
def Visit.Holds (visit : Visit) (id : String) : Prop :=
  id ∈ visit.registry.sessions ∧ ∀ i, id ∈ (visit.fetched i).sessions

/-! ### What one request delivers -/

/-- The delivered ids are ids of the page. -/
lemma ids_listPage_sublist (effective : ℕ) (ids : List String) (fetched : ℕ → SessionRegistry) :
    (listPage effective ids fetched).ids.Sublist (ids.take effective) := by
  have h (l : List String) (n : ℕ) :
      (((l.zipIdx n).filterMap (fetchSession fetched)).map (·.sessionId)).Sublist l := by
    induction l generalizing n with
    | nil => exact List.Sublist.refl []
    | cons id l ih =>
      rw [List.zipIdx_cons]
      cases hget : (fetched n).sessions[id]? with
      | none =>
        rw [List.filterMap_cons_none (by rw [fetchSession, hget]; rfl)]
        exact (ih (n + 1)).cons id
      | some s =>
        rw [List.filterMap_cons_some (b := sessionToMetadata s)
          (by rw [fetchSession, hget]; rfl), List.map_cons]
        have hid : (sessionToMetadata s).sessionId = id := (fetched n).sessionId_eq id s hget
        rw [hid]
        exact (ih (n + 1)).cons_cons id
  exact h (ids.take effective) 0

lemma mem_ids_listPage {effective : ℕ} {ids : List String} {fetched : ℕ → SessionRegistry}
    (hid : id ∈ ids.take effective) (hfetched : ∀ i, id ∈ (fetched i).sessions) :
    id ∈ (listPage effective ids fetched).ids := by
  obtain ⟨i, hi⟩ := List.getElem?_of_mem hid
  have hmem : (id, i) ∈ (ids.take effective).zipIdx := List.mem_zipIdx_iff_getElem?.mpr hi
  obtain ⟨s, hs⟩ : ∃ s, (fetched i).sessions[id]? = some s :=
    ⟨_, Std.ExtTreeMap.getElem?_eq_some_getElem (hfetched i)⟩
  have hsid := (fetched i).sessionId_eq id s hs
  refine List.mem_map.mpr ⟨sessionToMetadata s, ?_, hsid⟩
  exact List.mem_filterMap.mpr ⟨(id, i), hmem, by rw [fetchSession, hs]; rfl⟩

namespace Visit

variable (visit : Visit)

lemma keys_nodup : visit.keys.Nodup :=
  visit.perm.nodup_iff.mpr Std.ExtTreeMap.nodup_keys

lemma mem_keys {id : String} : id ∈ visit.keys ↔ id ∈ visit.registry.sessions := by
  rw [visit.perm.mem_iff, Std.ExtTreeMap.mem_keys]

lemma length_idsFrom_lt (after : Option String) : (idsFrom visit.keys after).length < 2 ^ 64 := by
  have hsort : (idsFrom visit.keys after).length = (visit.keys.filter (isAfter after)).length :=
    (List.perm_insertionSort IdLe _).length_eq
  have hfilter := List.length_filter_le (isAfter after) visit.keys
  have hkeys : visit.keys.length = visit.registry.sessions.size := by
    rw [visit.perm.length_eq, Std.ExtTreeMap.length_keys]
  have hsize := visit.registry.size_lt
  omega

end Visit

/-- The ids up to the cursor have been swept: those received are sorted and not after it, and no
id that was held by every request so far is missing. -/
structure Swept (visit : ℕ → Visit) (k : ℕ) (after : Option String) (ids : List String) : Prop where
  sorted : ids.Pairwise fun a b => Utf8.bytes a < Utf8.bytes b
  notAfter : ∀ id ∈ ids, isAfter after id = false
  complete : ∀ id, (∀ j < k, (visit j).Holds id) → isAfter after id = false → id ∈ ids

/-- All ids have been swept. -/
structure SweptAll (visit : ℕ → Visit) (k : ℕ) (ids : List String) : Prop where
  sorted : ids.Pairwise fun a b => Utf8.bytes a < Utf8.bytes b
  complete : ∀ id, (∀ j < k, (visit j).Holds id) → id ∈ ids

/-- The token a client holds for a cursor. -/
def TokenOf : Option String → String → Prop
  | none, token => token = ""
  | some id, token => validateSessionIdForAcceptance id = .ok () ∧ token = encodePageToken id

lemma TokenOf.ne_empty (h : TokenOf (some id) token) : token ≠ "" := by
  rw [h.2]
  exact encodePageToken_ne_empty id

lemma TokenOf.pageCursor (h : TokenOf after token) : pageCursor token = .ok after := by
  cases after with
  | none =>
    rw [show token = "" from h]
    rfl
  | some id =>
    have hempty : ¬ token.isEmpty = true := by
      rw [String.isEmpty_iff]
      exact h.ne_empty
    rw [MacpRuntime.pageCursor, if_neg hempty, h.2, decodePageToken_encodePageToken h.1]

lemma isAfter_trans {a b : String} (ha : isAfter after a = true)
    (hab : Utf8.bytes a < Utf8.bytes b) : isAfter after b = true := by
  cases after with
  | none => rfl
  | some c =>
    rw [isAfter, Option.all_some, decide_eq_true_eq] at ha ⊢
    exact lt_trans ha hab

/-- Received ids come before those after the cursor. -/
lemma lt_of_isAfter {a b : String} (ha : isAfter after a = false) (hb : isAfter after b = true) :
    Utf8.bytes a < Utf8.bytes b := by
  cases after with
  | none => cases ha
  | some c =>
    rw [isAfter, Option.all_some] at ha hb
    exact lt_of_le_of_lt (not_lt.mp (of_decide_eq_false ha)) (of_decide_eq_true hb)

section Step

variable {visit : ℕ → Visit} {k : ℕ} {after : Option String} {ids : List String}
  {effective : ℕ} {read : List String}

section

variable (h : Swept visit k after ids)

include h

/-- The received ids with those of a page after the cursor. -/
lemma Swept.append_sorted {page : List String}
    (hpage : page.Sublist ((idsFrom (visit k).keys after).take effective)) :
    (ids ++ page).Pairwise fun a b => Utf8.bytes a < Utf8.bytes b := by
  have hsub := hpage.trans (List.take_sublist effective _)
  refine List.pairwise_append.mpr
    ⟨h.sorted, (idsFrom_pairwise (visit k).keys_nodup after).sublist hsub, ?_⟩
  intro a ha b hb
  exact lt_of_isAfter (h.notAfter a ha) (mem_idsFrom.mp (hsub.subset hb)).2

/-- What every request held is received: before, or on the page that is read. -/
lemma Swept.mem_append {id : String} (hheld : ∀ j < k + 1, (visit j).Holds id)
    (hpage : id ∈ idsFrom (visit k).keys after → id ∈ read.take effective) :
    id ∈ ids ++ (listPage effective read (visit k).fetched).ids := by
  obtain ⟨hreg, hfetched⟩ := hheld k (Nat.lt_succ_self k)
  cases hafter : isAfter after id with
  | false =>
    exact List.mem_append_left _
      (h.complete id (fun j hj => hheld j (Nat.lt_succ_of_lt hj)) hafter)
  | true =>
    have hmem := hpage (mem_idsFrom.mpr ⟨(visit k).mem_keys.mpr hreg, hafter⟩)
    exact List.mem_append_right _ (mem_ids_listPage hmem hfetched)

/-- The last page: everything after the cursor fits. -/
lemma Swept.last (hall : (idsFrom (visit k).keys after).length ≤ effective)
    (hread : read.take effective = (idsFrom (visit k).keys after).take effective) :
    SweptAll visit (k + 1) (ids ++ (listPage effective read (visit k).fetched).ids) := by
  have hsub := ids_listPage_sublist effective read (visit k).fetched
  rw [hread] at hsub
  refine ⟨h.append_sorted hsub, fun id hheld => h.mem_append hheld fun hmem => ?_⟩
  rwa [hread, List.take_of_length_le hall]

/-- A page with more to come: the ids up to its last one are swept. -/
lemma Swept.page {last : String}
    (hlast : ((idsFrom (visit k).keys after).take effective).getLast? = some last)
    (hread : read.take effective = (idsFrom (visit k).keys after).take effective) :
    Swept visit (k + 1) (some last) (ids ++ (listPage effective read (visit k).fetched).ids) := by
  set sorted := idsFrom (visit k).keys after with hsorted
  have hpairwise := idsFrom_pairwise (visit k).keys_nodup after
  have hsub := ids_listPage_sublist effective read (visit k).fetched
  rw [hread] at hsub
  have hlastMem : last ∈ sorted.take effective := List.mem_of_getLast? hlast
  have hlastAfter := (mem_idsFrom.mp (List.mem_of_mem_take hlastMem)).2
  -- the last id of the page is its greatest
  have hle (id : String) (hid : id ∈ sorted.take effective) : Utf8.bytes id ≤ Utf8.bytes last := by
    obtain ⟨front, hfront⟩ := List.getLast?_eq_some_iff.mp hlast
    have hp := hpairwise.sublist (List.take_sublist effective sorted)
    rw [hfront] at hid hp
    rcases List.mem_append.mp hid with hid | hid
    · exact le_of_lt ((List.pairwise_append.mp hp).2.2 id hid last (List.mem_singleton_self last))
    · rw [List.mem_singleton.mp hid]
  have hnotAfter {id : String} (hid : Utf8.bytes id ≤ Utf8.bytes last) :
      isAfter (some last) id = false := by
    rw [isAfter, Option.all_some, decide_eq_false_iff_not]
    exact not_lt.mpr hid
  refine ⟨h.append_sorted hsub, ?_, ?_⟩
  · intro id hid
    rcases List.mem_append.mp hid with hid | hid
    · exact hnotAfter (le_of_lt (lt_of_isAfter (h.notAfter id hid) hlastAfter))
    · exact hnotAfter (hle id (hsub.subset hid))
  · intro id hheld hid
    rw [isAfter, Option.all_some, decide_eq_false_iff_not, not_lt] at hid
    refine h.mem_append hheld fun hmem => ?_
    rw [hread]
    -- an id not above the last of the page is not among those cut off
    rw [← hsorted, ← List.take_append_drop effective sorted] at hmem
    rcases List.mem_append.mp hmem with hmem | hmem
    · exact hmem
    · have hp := hpairwise
      rw [← hsorted, ← List.take_append_drop effective sorted] at hp
      have hlt := (List.pairwise_append.mp hp).2.2 last hlastMem id hmem
      exact absurd hid (not_le.mpr hlt)

end

end Step

/-- A request with the token of a cursor gets the page after it. -/
lemma listSessions_of_token {visit : Visit} (security : SecurityLayer)
    (htoken : TokenOf after token) (hsize : 0 ≤ visit.pageSize) : listSessions security visit token
      = .ok (listPage (effectivePageSize security visit.pageSize)
        ((idsFrom visit.keys after).take
          (min (effectivePageSize security visit.pageSize + 1) (2 ^ 64 - 1))) visit.fetched) := by
  rw [listSessions, if_neg (Int32.not_lt.mpr hsize), htoken.pageCursor, Except.map]
  dsimp only
  rw [sessionIdsAfter_eq]

/-- What a request leaves behind: everything is swept, or the sweep goes on from a later id of
the registry. -/
def Continues (visit : ℕ → Visit) (k : ℕ) (after : Option String) (ids : List String)
    (token : String) : Prop :=
  (token = "" ∧ SweptAll visit (k + 1) ids)
    ∨ ∃ last, last ∈ (visit k).registry.sessions ∧ isAfter after last = true
        ∧ TokenOf (some last) token ∧ Swept visit (k + 1) (some last) ids

/-- One request of a traversal answers and goes on. -/
lemma Swept.request {visit : ℕ → Visit} {k : ℕ} {ids : List String} (h : Swept visit k after ids)
    (security : SecurityLayer) (htoken : TokenOf after token) (hsize : 0 ≤ (visit k).pageSize) :
    ∃ response, listSessions security (visit k) token = .ok response
      ∧ Continues visit k after (ids ++ response.ids) response.nextPageToken := by
  set effective := effectivePageSize security (visit k).pageSize with heffective
  have hpos : 1 ≤ effective := Nat.le_max_left _ _
  have hbound := (visit k).length_idsFrom_lt after
  set sorted := idsFrom (visit k).keys after with hsorted
  set read := sorted.take (min (effective + 1) (2 ^ 64 - 1)) with hreadDef
  have hread : read.take effective = sorted.take effective := by
    rw [hreadDef, List.take_take]
    rcases Nat.lt_or_ge effective (2 ^ 64 - 1) with hlt | hge
    · rw [Nat.min_eq_left (by omega)]
    · rw [List.take_of_length_le (by omega), List.take_of_length_le (by omega)]
  have hmore : effective < read.length ↔ effective < sorted.length := by
    rw [hreadDef, List.length_take]
    omega
  refine ⟨listPage effective read (visit k).fetched,
    listSessions_of_token security htoken hsize, ?_⟩
  · rw [Continues]
    by_cases hlt : effective < sorted.length
    · right
      obtain ⟨last, hlast⟩ : ∃ last, (sorted.take effective).getLast? = some last := by
        refine Option.ne_none_iff_exists'.mp ?_
        rw [Ne, List.getLast?_eq_none_iff, List.take_eq_nil_iff, not_or]
        exact ⟨by omega, List.ne_nil_of_length_pos (by omega)⟩
      obtain ⟨hkey, hafter⟩ :=
        mem_idsFrom.mp (List.mem_of_mem_take (List.mem_of_getLast? hlast))
      have hmem := (visit k).mem_keys.mp hkey
      have hnext : (listPage effective read (visit k).fetched).nextPageToken
          = encodePageToken last := by
        rw [listPage]
        dsimp only
        rw [if_pos (hmore.mpr hlt), hread, hlast]
        rfl
      refine ⟨last, hmem, hafter, ?_, h.page hlast hread⟩
      rw [hnext]
      exact ⟨(visit k).registry.accepted last hmem, rfl⟩
    · left
      refine ⟨?_, h.last (not_lt.mp hlt) hread⟩
      rw [listPage]
      dsimp only
      rw [if_neg (fun hlt' => hlt (hmore.mp hlt'))]

/-! ### Whole traversals -/

section Traversal

variable {security : SecurityLayer} {visit : ℕ → Visit} {k : ℕ} {token : String}
  {ids : List String}

lemma Swept.start (visit : ℕ → Visit) : Swept visit 0 none [] where
  sorted := List.Pairwise.nil
  notAfter := fun _ h => absurd h List.not_mem_nil
  complete := fun _ _ h => absurd h (by rw [isAfter, Option.all_none]; exact Bool.noConfusion)

/-- A traversal that goes on has swept the ids up to the cursor of its token; one that ended has
swept them all. -/
lemma Traversal.swept (hsize : ∀ k, 0 ≤ (visit k).pageSize)
    (h : Traversal security visit k token ids) :
    (0 < k ∧ token = "" ∧ SweptAll visit k ids)
      ∨ (k = 0 ∨ token ≠ "") ∧ ∃ after, TokenOf after token ∧ Swept visit k after ids := by
  induction h with
  | start => exact Or.inr ⟨Or.inl rfl, none, rfl, Swept.start visit⟩
  | next _ hmore hresponse ih =>
    rcases ih with ⟨hk, htoken, _⟩ | ⟨_, after, htoken, hswept⟩
    · exact absurd htoken (hmore.resolve_left (by omega))
    · obtain ⟨response, hok, hcontinues⟩ := hswept.request security htoken (hsize _)
      rw [hresponse] at hok
      obtain rfl := Except.ok.inj hok
      rcases hcontinues with ⟨htoken', hall⟩ | ⟨last, _, _, htoken', hswept'⟩
      · exact Or.inl ⟨Nat.succ_pos _, htoken', hall⟩
      · exact Or.inr ⟨Or.inr htoken'.ne_empty, some last, htoken', hswept'⟩

/-- From any point of a traversal it ends, because the ids after the cursor become fewer. -/
lemma Traversal.ends (hsize : ∀ k, 0 ≤ (visit k).pageSize) (known : Finset String)
    (hknown : ∀ k id, id ∈ (visit k).registry.sessions → id ∈ known) (after : Option String)
    (h : Traversal security visit k token ids) (hmore : k = 0 ∨ token ≠ "")
    (htoken : TokenOf after token) (hswept : Swept visit k after ids) :
    ∃ k' ids', 0 < k' ∧ Traversal security visit k' "" ids' := by
  induction hn : (known.filter fun id => isAfter after id = true).card
    using Nat.strong_induction_on generalizing k token ids after with
  | _ n ih =>
    obtain ⟨response, hok, hcontinues⟩ := hswept.request security htoken (hsize k)
    have hnext := Traversal.next h hmore hok
    rcases hcontinues with ⟨htoken', _⟩ | ⟨last, hmem, hafter, htoken', hswept'⟩
    · rw [htoken'] at hnext
      exact ⟨k + 1, _, Nat.succ_pos k, hnext⟩
    · refine ih _ ?_ (some last) hnext (Or.inr htoken'.ne_empty) htoken' hswept' rfl
      rw [← hn]
      refine Finset.card_lt_card ⟨?_, ?_⟩
      · intro id hid
        rw [Finset.mem_filter] at hid ⊢
        refine ⟨hid.1, isAfter_trans hafter ?_⟩
        exact of_decide_eq_true hid.2
      · intro hsub
        have hlast := hsub (Finset.mem_filter.mpr ⟨hknown k last hmem, hafter⟩)
        exact lt_irrefl _ (of_decide_eq_true (Finset.mem_filter.mp hlast).2)

end Traversal

/-- **A traversal of the sessions.**  Whatever is registered or removed between and during the
requests and whatever page sizes are asked for: the next request never fails; the ids arrive in
strictly ascending byte order; an ended traversal has delivered every session that was there all
the time; and it ends if only finitely many ids ever appear. -/
theorem traversal_complete (security : SecurityLayer) (visit : ℕ → Visit)
    (hsize : ∀ k, 0 ≤ (visit k).pageSize) :
    (∀ k token ids, Traversal security visit k token ids → k = 0 ∨ token ≠ "" →
        ∃ response, listSessions security (visit k) token = .ok response)
    ∧ (∀ k token ids, Traversal security visit k token ids →
        ids.Pairwise fun a b => Utf8.bytes a < Utf8.bytes b)
    ∧ (∀ k ids, 0 < k → Traversal security visit k "" ids →
        ∀ id, (∀ j < k, (visit j).Holds id) → id ∈ ids)
    ∧ ({id | ∃ k, id ∈ (visit k).registry.sessions}.Finite →
        ∃ k ids, 0 < k ∧ Traversal security visit k "" ids) := by
  refine ⟨?_, ?_, ?_, ?_⟩
  · intro k token ids h hmore
    rcases h.swept hsize with ⟨hk, htoken, _⟩ | ⟨_, after, htoken, hswept⟩
    · exact absurd htoken (hmore.resolve_left (by omega))
    · obtain ⟨response, hok, _⟩ := hswept.request security htoken (hsize k)
      exact ⟨response, hok⟩
  · intro k token ids h
    rcases h.swept hsize with ⟨_, _, hall⟩ | ⟨_, _, _, hswept⟩
    · exact hall.sorted
    · exact hswept.sorted
  · intro k ids hk h
    rcases h.swept hsize with ⟨_, _, hall⟩ | ⟨hmore, _⟩
    · exact hall.complete
    · exact absurd rfl (hmore.resolve_left (by omega))
  · intro hfinite
    refine Traversal.ends hsize hfinite.toFinset ?_ none Traversal.start (Or.inl rfl) rfl
      (Swept.start visit)
    intro k id hid
    exact hfinite.mem_toFinset.mpr ⟨k, hid⟩

/-- Sessions under the given ids. -/
def listedSessions : List String → Std.ExtTreeMap String Session
  | [] => ∅
  | id :: ids =>
    (listedSessions ids).insert id (Session.builder id "macp.mode.decision.v1" "alice")

lemma getElem?_listedSessions (ids : List String) (id : String) : (listedSessions ids)[id]?
    = if id ∈ ids then some (Session.builder id "macp.mode.decision.v1" "alice") else none := by
  induction ids with
  | nil => exact Std.ExtTreeMap.getElem?_empty
  | cons i ids ih =>
    rw [listedSessions, Std.ExtTreeMap.getElem?_insert, ih]
    by_cases hi : i = id
    · simp [hi]
    · simp [hi, Ne.symm hi]

/-- A request for pages of one on a registry of the given ids. -/
def listedVisit (ids : List String) (h : ∀ id ∈ ids, validateSessionIdForAcceptance id = .ok ())
    (hsize : (listedSessions ids).size < 2 ^ 64) : Visit :=
  let registry : SessionRegistry :=
    { sessions := listedSessions ids
      sessionId_eq := by
        intro id s hget
        rw [getElem?_listedSessions] at hget
        split_ifs at hget
        cases hget
        rfl
      accepted := by
        intro id hid
        have hget := Std.ExtTreeMap.getElem?_eq_some_getElem hid
        rw [getElem?_listedSessions] at hget
        split_ifs at hget with hmem
        exact h id hmem
      size_lt := hsize }
  ⟨1, registry, registry.sessions.keys, .refl _, fun _ => registry⟩

/-- One of four ids. -/
def listedId (last : String) : String := "11111111-1111-4111-8111-11111111111" ++ last

/-- After the first request the second session goes and a fourth comes. -/
def changingVisit : ℕ → Visit
  | 0 => listedVisit [listedId "1", listedId "2", listedId "3"] (by decide) (by decide +kernel)
  | _ => listedVisit [listedId "3", listedId "4", listedId "1"] (by decide) (by decide +kernel)

/-- A client that asks for pages of one finds the sessions that stay and the one that comes. -/
theorem traversal_complete_changing :
    Traversal ⟨50, 200⟩ changingVisit 3 "" [listedId "1", listedId "3", listedId "4"]
      ∧ ∀ id, (∀ j < 3, (changingVisit j).Holds id) →
        id ∈ [listedId "1", listedId "3", listedId "4"] := by
  have hsize (k : ℕ) : 0 ≤ (changingVisit k).pageSize := by
    rcases k with _ | k <;> exact (by decide : (0 : Int32) ≤ 1)
  have htoken (last : String) (h : validateSessionIdForAcceptance (listedId last) = .ok ()) :
      TokenOf (some (listedId last)) (encodePageToken (listedId last)) := ⟨h, rfl⟩
  have hfirst : Traversal ⟨50, 200⟩ changingVisit 1 (encodePageToken (listedId "1"))
      [listedId "1"] := by
    convert Traversal.next .start (.inl rfl)
      (@listSessions_of_token none "" (changingVisit 0) ⟨50, 200⟩ rfl (hsize 0)) using 1 <;>
      decide +kernel
  have hsecond : Traversal ⟨50, 200⟩ changingVisit 2 (encodePageToken (listedId "3"))
      [listedId "1", listedId "3"] := by
    convert Traversal.next hfirst (.inr (encodePageToken_ne_empty _))
      (listSessions_of_token ⟨50, 200⟩ (htoken "1" (by decide)) (hsize 1)) using 1 <;>
      decide +kernel
  have hthird : Traversal ⟨50, 200⟩ changingVisit 3 ""
      [listedId "1", listedId "3", listedId "4"] := by
    convert Traversal.next hsecond (.inr (encodePageToken_ne_empty _))
      (listSessions_of_token ⟨50, 200⟩ (htoken "3" (by decide)) (hsize 2)) using 1 <;>
      decide +kernel
  exact ⟨hthird, (traversal_complete ⟨50, 200⟩ changingVisit hsize).2.2.1 3 _ (by decide) hthird⟩

end MacpRuntime
