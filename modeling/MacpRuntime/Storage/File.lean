import MacpRuntime.Lib.JsonText
import MacpRuntime.Server.Log

/-!
The log file of a session (`macp-storage/src/storage/file.rs`): one JSON object a line, appended and
synced entry by entry.  An append completes, or it is interrupted and leaves some bytes of its line;
it is clean onto a file that is empty or ends in a newline, if not cut inside a character.

* `loadLog_of_clean`: **after clean appends the log is read back as every entry whose append
  returned, and the interrupted ones that were written completely**;
* `append_after_torn_is_lost`, `cut_character_fails_load`: what the two conditions exclude.
-/

namespace MacpRuntime

open LineLog

/-- A log entry as the store holds it. -/
structure StoredEntry where
  entry : LogEntry
  semanticsRev_lt : entry.semanticsRev < 2 ^ 32
  ordinals_lt : entry.compactedIncomingOrdinals < 2 ^ 64

namespace FileBackend

open JsonCodec (string int64 byte fromJson_toJson optionString optionInt64)

/-- The kinds of I/O error the backend makes itself. -/
inductive IoErrorKind where
  | InvalidInput
  | InvalidData
  deriving DecidableEq, Repr

/-- What became of an append after its file was opened, or of the opening. -/
inductive Fate where
  | completes
  | notOpened
  | interrupted (written : ℕ)
  deriving DecidableEq, Repr

/-- A call of `append_log_entry` and its fate. -/
structure AppendCall where
  entry : StoredEntry
  fate : Fate

/-- Whether an id is a single path component. -/
def check (sessionId : String) : Bool :=
  sessionId ≠ "" && sessionId ≠ "." && sessionId ≠ ".."
    && !sessionId.toList.any fun c => c = '/' || c = Char.ofNat 0

section

variable (codec : LineCodec StoredEntry) (sessionId : String) (file : Option Bytes)

/-- Write an entry to the log file, which need not exist: whether the call returned `Ok`, and the
file it left. -/
def appendLogEntry (call : AppendCall) : Bool × Option Bytes :=
  if !check sessionId then (false, file)
  else
    match call.fate with
    | .notOpened => (false, file)
    | .completes => (true, some (file.getD [] ++ line codec call.entry))
    | .interrupted written =>
      (false, some (file.getD [] ++ (line codec call.entry).take written))

/-- The entries of a log file.  Lines that do not parse are skipped; a file that is not UTF-8 is an
error. -/
def loadLog : Except IoErrorKind (List StoredEntry) :=
  if !check sessionId then .error .InvalidInput
  else
    match file with
    | none => .ok []
    | some bytes =>
      match load codec bytes with
      | some entries => .ok entries
      | none => .error .InvalidData

/-- The file after a sequence of calls. -/
def appendAll (calls : List AppendCall) : Option Bytes :=
  calls.foldl (fun file call => (appendLogEntry codec sessionId file call).2) file

end

/-! ### Clean appends -/

/-- What a call writes, if its file was opened. -/
def AppendCall.write (call : AppendCall) : Option (LineWrite StoredEntry) :=
  match call.fate with
  | .notOpened => none
  | .completes => some (.full call.entry)
  | .interrupted written => some (.torn call.entry written)

/-- The entry of a call that returned `Ok`, or was interrupted after all of the entry's text. -/
def AppendCall.complete (codec : LineCodec StoredEntry) (call : AppendCall) : Option StoredEntry :=
  call.write.bind (·.survivor codec)

/-- An append onto a file that is empty or ends in a newline, and that is not cut inside a
character. -/
def AppendCall.Clean (codec : LineCodec StoredEntry) (file : Option Bytes) (call : AppendCall) :
    Prop :=
  ∀ write ∈ call.write, write.Clean codec (file.getD [])

/-- Calls that are clean one after the other. -/
def CleanCalls (codec : LineCodec StoredEntry) (sessionId : String) :
    Option Bytes → List AppendCall → Prop
  | _, [] => True
  | file, call :: calls =>
    call.Clean codec file
      ∧ CleanCalls codec sessionId (appendLogEntry codec sessionId file call).2 calls

section

variable {codec : LineCodec StoredEntry} {sessionId : String}

section

variable (hid : check sessionId = true)

include hid

variable (file : Option Bytes)

lemma appendLogEntry_completes (e : StoredEntry) :
    appendLogEntry codec sessionId file ⟨e, .completes⟩
      = (true, some (file.getD [] ++ line codec e)) := by
  simp [appendLogEntry, hid]

lemma appendLogEntry_interrupted (e : StoredEntry) (written : ℕ) :
    appendLogEntry codec sessionId file ⟨e, .interrupted written⟩
      = (false, some (file.getD [] ++ (line codec e).take written)) := by
  simp [appendLogEntry, hid]

lemma loadLog_some (bytes : Bytes) :
    loadLog codec sessionId (some bytes)
      = match load codec bytes with
        | some entries => .ok entries
        | none => .error .InvalidData := by
  simp [loadLog, hid]

lemma appendLogEntry_bytes (call : AppendCall) :
    (appendLogEntry codec sessionId file call).2.getD []
      = file.getD [] ++ fileOf codec call.write.toList := by
  obtain ⟨entry, fate⟩ := call
  cases fate with
  | completes =>
    rw [appendLogEntry_completes hid]
    simp [AppendCall.write, fileOf, LineWrite.bytes]
  | notOpened => simp [appendLogEntry, AppendCall.write, fileOf]
  | interrupted written =>
    rw [appendLogEntry_interrupted hid]
    simp [AppendCall.write, fileOf, LineWrite.bytes]

end

lemma fileOf_append (calls calls' : List (LineWrite StoredEntry)) :
    fileOf codec (calls ++ calls') = fileOf codec calls ++ fileOf codec calls' :=
  List.flatMap_append

/-- The calls as writes of lines. -/
def writes (calls : List AppendCall) : List (LineWrite StoredEntry) := calls.filterMap (·.write)

lemma writes_cons (call : AppendCall) (calls : List AppendCall) :
    writes (call :: calls) = call.write.toList ++ writes calls := by
  rw [writes, List.filterMap_cons]
  cases call.write <;> rfl

/-- The bytes of the file after some calls. -/
lemma appendAll_bytes (hid : check sessionId = true) (file : Option Bytes)
    (calls : List AppendCall) :
    (appendAll codec sessionId file calls).getD []
      = file.getD [] ++ fileOf codec (writes calls) := by
  induction calls generalizing file with
  | nil => exact (List.append_nil _).symm
  | cons call calls ih =>
    have hrest := ih (appendLogEntry codec sessionId file call).2
    rw [appendLogEntry_bytes hid, List.append_assoc, ← fileOf_append, ← writes_cons] at hrest
    exact hrest

lemma CleanCalls.cleanFrom (hid : check sessionId = true) {file : Option Bytes}
    {calls : List AppendCall} (h : CleanCalls codec sessionId file calls) :
    CleanFrom codec (file.getD []) (writes calls) := by
  induction calls generalizing file with
  | nil => trivial
  | cons call calls ih =>
    obtain ⟨hclean, hrest⟩ := h
    have hfrom := ih hrest
    rw [appendLogEntry_bytes hid] at hfrom
    rw [writes_cons]
    rcases hwrite : call.write with _ | write
    · rw [hwrite] at hfrom
      simpa [fileOf] using hfrom
    · rw [hwrite] at hfrom
      refine ⟨hclean write hwrite, ?_⟩
      simpa [fileOf] using hfrom

/-- **Acknowledged appends are read back**: after clean appends `load_log` succeeds and returns,
in order, every entry whose append returned `Ok`, and of the interrupted ones exactly those that
were written completely. -/
theorem loadLog_of_clean (hid : check sessionId = true) {calls : List AppendCall}
    (hclean : CleanCalls codec sessionId none calls) :
    loadLog codec sessionId (appendAll codec sessionId none calls)
      = .ok (calls.filterMap (·.complete codec)) := by
  have hload := load_of_clean (hclean.cleanFrom hid)
  have hbytes : (appendAll codec sessionId none calls).getD [] = fileOf codec (writes calls) :=
    appendAll_bytes hid none calls
  have hcomplete : (writes calls).filterMap (·.survivor codec)
      = calls.filterMap (·.complete codec) := List.filterMap_filterMap
  rw [← hbytes, hcomplete] at hload
  generalize appendAll codec sessionId none calls = file at hload ⊢
  cases file with
  | none =>
    rw [loadLog, hid]
    exact congrArg Except.ok (Option.some.inj hload)
  | some bytes =>
    rw [Option.getD_some] at hload
    rw [loadLog_some hid, hload]

end

/-! ### Entries as JSON -/

/-- The kinds by name. -/
def entryKind : JsonCodec EntryKind :=
  .variant [("Incoming", .Incoming), ("Internal", .Internal), ("Checkpoint", .Checkpoint)]

/-- An unsigned integer of 32 bits. -/
def uint32 : JsonCodec { n : ℕ // n < 2 ^ 32 } := .below (2 ^ 32) (by decide)

/-- An unsigned integer of 64 bits. -/
def uint64 : JsonCodec { n : ℕ // n < 2 ^ 64 } := .below (2 ^ 64) le_rfl

/-- An entry; the members from `session_id` on may be absent. -/
def entryJson : JsonCodec StoredEntry :=
  .record (fun messageId receivedAtMs sender messageType rawPayload kind sessionId mode macpVersion
      timestampUnixMs boundModeVersion semanticsRev boundMaxSuspendMs ordinals =>
    ⟨⟨messageId, receivedAtMs, sender, messageType, rawPayload, kind, sessionId, mode,
      macpVersion, timestampUnixMs, boundModeVersion, semanticsRev.1, boundMaxSuspendMs,
      ordinals.1⟩, semanticsRev.2, ordinals.2⟩) <|
    .field "message_id" string (·.entry.messageId) <|
    .field "received_at_ms" int64 (·.entry.receivedAtMs) <|
    .field "sender" string (·.entry.sender) <|
    .field "message_type" string (·.entry.messageType) <|
    .field "raw_payload" byte.list (·.entry.rawPayload) <|
    .field "entry_kind" entryKind (·.entry.entryKind) <|
    .fieldOr "session_id" string "" (·.entry.sessionId) <|
    .fieldOr "mode" string "" (·.entry.mode) <|
    .fieldOr "macp_version" string "" (·.entry.macpVersion) <|
    .fieldOr "timestamp_unix_ms" int64 0 (·.entry.timestampUnixMs) <|
    .fieldOr "bound_mode_version" optionString none (·.entry.boundModeVersion) <|
    .fieldOr "semantics_rev" uint32 ⟨0, by decide⟩ (fun e => ⟨_, e.semanticsRev_lt⟩) <|
    .fieldOr "bound_max_suspend_ms" optionInt64 none (·.entry.boundMaxSuspendMs) <|
    .fieldOr "compacted_incoming_ordinals" uint64 ⟨0, by decide⟩ (fun e => ⟨_, e.ordinals_lt⟩) .nil

variable (e : StoredEntry)

/-- An entry as one line of the file. -/
def entryLine : LineCodec StoredEntry := entryJson.lineCodec fun _ => ⟨_, rfl⟩

/-! ### Torn lines -/

/-- A message with a given id, accepted at 7. -/
def storedMessage (messageId : String) : StoredEntry :=
  ⟨makeIncomingEntry ⟨macpVersion, "ext.m", "Ping", messageId, "s", "a", 5, []⟩ 7,
    Nat.two_pow_pos _, Nat.two_pow_pos _⟩

lemma line_eq (codec : LineCodec StoredEntry) (e : StoredEntry) :
    line codec e = Utf8.encode (String.ofList (codec.write e)) ++ [10] :=
  Utf8.encode_append _ _

/-- One append, and a second that is interrupted after its text. -/
def sampleCalls (codec : LineCodec StoredEntry) : List AppendCall :=
  [⟨storedMessage "m1", .completes⟩,
    ⟨storedMessage "m2", .interrupted
      (Utf8.encode (String.ofList (codec.write (storedMessage "m2")))).length⟩]

lemma sampleCalls_clean (codec : LineCodec StoredEntry) :
    CleanCalls codec "s" none (sampleCalls codec) := by
  refine ⟨?_, ?_, trivial⟩
  · rintro write ⟨⟩
    exact ⟨.inl rfl, trivial⟩
  · rintro write ⟨⟩
    refine ⟨.inr ?_, (codec.write (storedMessage "m2")).length, ?_⟩
    · rw [appendLogEntry_bytes (by decide), Option.getD_none, List.nil_append]
      have hfile : fileOf codec (AppendCall.write ⟨storedMessage "m1", .completes⟩).toList
          = line codec (storedMessage "m1") := List.append_nil _
      rw [hfile, line_eq, List.getLast?_concat]
    · rw [line_eq, List.take_left, List.take_left]

lemma sampleCalls_complete (codec : LineCodec StoredEntry) :
    (sampleCalls codec).filterMap (·.complete codec)
      = [storedMessage "m1", storedMessage "m2"] := by
  simp [sampleCalls, AppendCall.complete, AppendCall.write, LineWrite.survivor]

theorem loadLog_of_clean_sample :
    loadLog entryLine "s" (appendAll entryLine "s" none (sampleCalls entryLine))
      = .ok [storedMessage "m1", storedMessage "m2"] := by
  rw [loadLog_of_clean (by decide) (sampleCalls_clean entryLine), sampleCalls_complete]

lemma exists_write_eq : ∃ t, entryLine.write e
    = Json.openBrace
      :: (Json.writeString "message_id" ++ ':' :: (Json.writeString e.entry.messageId ++ t)) := by
  obtain ⟨ms, hwrite⟩ : ∃ ms, entryLine.write e
      = Json.write (.object (("message_id", .string e.entry.messageId) :: ms)) := ⟨_, rfl⟩
  rw [hwrite, Json.write, Json.writeMembers, Json.write]
  simp only [List.append_assoc, List.cons_append]
  exact ⟨_, rfl⟩

lemma parse_two_braces (t : List Char) :
    Json.parse (Json.openBrace :: Json.openBrace :: t) = none := by
  have hskip (cs : List Char) : Json.skip (Json.openBrace :: cs) = Json.openBrace :: cs := by
    rw [Json.skip, List.dropWhile_cons]
    rfl
  have hmembers (k : ℕ) : Json.parseMembers k (Json.openBrace :: t) = none := by
    cases k <;> rfl
  rw [Json.parse, hskip, Json.parseValue.eq_def]
  dsimp only
  rw [if_neg (by decide), if_neg (by decide), if_pos rfl, hskip]
  dsimp only
  rw [if_neg (by decide), hmembers]
  rfl

lemma load_torn_brace (e' : StoredEntry) :
    load entryLine ((line entryLine e).take 1 ++ line entryLine e') = some [] := by
  obtain ⟨t, ht⟩ : ∃ t, entryLine.write e = Json.openBrace :: t :=
    (exists_write_eq e).imp' _ fun _ h => h
  obtain ⟨t', ht'⟩ : ∃ t, entryLine.write e' = Json.openBrace :: t :=
    (exists_write_eq e').imp' _ fun _ h => h
  have htorn : (line entryLine e).take 1 = Utf8.encode (String.ofList [Json.openBrace]) := by
    rw [line, ht, ← List.singleton_append, List.append_assoc, Utf8.encode_append]
    exact List.take_left' rfl
  have hprintable : ∀ c ∈ Json.openBrace :: entryLine.write e', Printable c := by
    intro c hc
    rcases List.mem_cons.mp hc with rfl | hc
    · decide
    · exact entryLine.printable e' c hc
  have hread : entryLine.read (Json.openBrace :: entryLine.write e') = none := by
    rw [ht']
    exact congrArg (Option.bind · entryJson.fromJson) (parse_two_braces t')
  rw [htorn, line, ← Utf8.encode_append, load, Utf8.decode_encode, Option.map_some,
    String.toList_ofList, ← List.append_assoc, List.singleton_append, records,
    lines_ended hprintable, List.filterMap_cons, hread, ite_self, List.filterMap_nil]

/-- **An acknowledged append can be lost**: after a torn line of one byte, the next append returns
`Ok` and its entry is not read back. -/
theorem append_after_torn_is_lost :
    (appendLogEntry entryLine "s"
        (appendLogEntry entryLine "s" none ⟨storedMessage "m1", .interrupted 1⟩).2
        ⟨storedMessage "m2", .completes⟩).1 = true
      ∧ loadLog entryLine "s" (appendAll entryLine "s" none
        [⟨storedMessage "m1", .interrupted 1⟩, ⟨storedMessage "m2", .completes⟩]) = .ok [] := by
  have hid : check "s" = true := by decide
  have hload := load_torn_brace (storedMessage "m1") (storedMessage "m2")
  generalize storedMessage "m1" = e at hload ⊢
  generalize storedMessage "m2" = e' at hload ⊢
  rw [appendAll, List.foldl_cons, List.foldl_cons, List.foldl_nil, appendLogEntry_interrupted hid,
    appendLogEntry_completes hid]
  refine ⟨rfl, ?_⟩
  rw [Option.getD_none, Option.getD_some, List.nil_append, loadLog_some hid, hload]

/-- **A cut character makes the log unreadable**: the second byte of the message id is missing. -/
theorem cut_character_fails_load :
    loadLog entryLine "s" (appendAll entryLine "s" none [⟨storedMessage "é", .interrupted 16⟩])
      = .error .InvalidData := by
  have hid : check "s" = true := by decide
  -- the bytes up to the one that is cut off
  have hbytes : (line entryLine (storedMessage "é")).take 16
      = (Json.openBrace :: (Json.writeString "message_id" ++ [':', Json.quote])).flatMap
          Utf8.encodeChar ++ [0xC3] := by
    obtain ⟨t, ht⟩ := exists_write_eq (storedMessage "é")
    rw [line, Utf8.encode, String.toList_ofList, ht]
    rfl
  have hload : load entryLine ((line entryLine (storedMessage "é")).take 16) = none := by
    rw [load, Utf8.decode, hbytes, Utf8.decodeChars_flatMap_append]
    rfl
  generalize storedMessage "é" = e at hload ⊢
  rw [appendAll, List.foldl_cons, List.foldl_nil, appendLogEntry_interrupted hid, Option.getD_none,
    List.nil_append, loadLog_some hid, hload]

end FileBackend

end MacpRuntime
