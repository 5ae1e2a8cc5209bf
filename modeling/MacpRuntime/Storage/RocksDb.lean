import MacpRuntime.Lib.JsonNumber
import MacpRuntime.Lib.KeyRange
import MacpRuntime.Storage.File

/-!
The logs of the RocksDB backend (`macp-storage/src/storage/rocksdb.rs`): one ordered store for all
sessions, with an entry a key.  An append reads its number and writes its key in two steps, so that
the calls of different sessions interleave; a restart drops the calls in flight.

* `logKey`: `{session_id}\x00{seq:08}`; keys of eight digits are in the order of their numbers;
* `Logs`: what the store is for, a list of entries a session;
* `rocksDb_log_order`: **as long as no session has more than 10^8 entries, every log is read back as
  what was appended to it**;
* `rocksDb_order_breaks`: the next entry is read back before others.
-/

open Std KeyRange

namespace MacpRuntime.RocksDbBackend

open Function (update)

/-- What the backend takes from RocksDB: a column family, with keys in the order of their bytes, a
synced `put` and iterators over snapshots. -/
abbrev RocksDb : Type _ := OrderedStore UInt8 Bytes (compare : UInt8 → _)

/-! ### Keys -/

/-- The bytes of ASCII characters. -/
def asciiBytes (cs : List Char) : Bytes := cs.map fun c => UInt8.ofNat c.toNat

/-- The digits of a sequence number: at least eight. -/
def seqDigits (seq : ℕ) : List Char := (Json.decimal seq).leftpad 8 '0'

/-- `{seq:08}`. -/
def formatSeq (seq : ℕ) : Bytes := asciiBytes (seqDigits seq)

/-- Prefix of all log keys of a session: `{session_id}\x00`. -/
def logPrefix (sessionId : String) : Bytes := Utf8.encode sessionId ++ [0]

/-- Key of a log entry: `{session_id}\x00{seq:08}`. -/
def logKey (sessionId : String) (seq : ℕ) : Bytes := logPrefix sessionId ++ formatSeq seq

/-- `str::parse::<u64>`. -/
def parseUInt64 (bytes : Bytes) : Option ℕ :=
  let digits := if bytes.head? = some 43 then bytes.tail else bytes
  if digits ≠ [] ∧ digits.all fun b => 48 ≤ b.toNat && b.toNat ≤ 57 then
    let n := digits.foldl (fun n b => n * 10 + (b.toNat - 48)) 0
    if n < 2 ^ 64 then some n else none
  else none

/-- `rsplit('\x00').next()`: what follows the last NUL. -/
def afterLastNul (bytes : Bytes) : Bytes := bytes.rtakeWhile (· ≠ 0)

/-! ### The backend -/

variable (rocks : RocksDb) (codec : JsonCodec StoredEntry)

/-- The next sequence number of a session: one more than that of its last key, found below the
first key that is past all of them. -/
def nextSeq (logs : rocks.State) (sessionId : String) : ℕ :=
  let pre := logPrefix sessionId
  let upperBound := pre.dropLast ++ [1]
  match rocks.lastBelow logs upperBound with
  | none => 0
  | some (key, _) =>
    if pre.isPrefixOf key then
      match parseUInt64 (afterLastNul key) with
      | some seq => (seq + 1) % 2 ^ 64
      | none => 0
    else 0

/-- The entries of a session; a value that does not parse is skipped. -/
def loadLog (logs : rocks.State) (sessionId : String) : List StoredEntry :=
  (rocks.scanPrefix logs (logPrefix sessionId)).filterMap fun e => codec.decode e.2

/-- The store, and the calls of `append_log_entry` that have read their sequence number and have
not written yet. -/
structure Db where
  logs : rocks.State
  inFlight : String → Option (ℕ × StoredEntry)

/-- The steps of a run: a call reads its sequence number, it writes its entry or fails, and the
process restarts. -/
inductive Call where
  | begin (sessionId : String) (entry : StoredEntry)
  | write (sessionId : String)
  | fail (sessionId : String)
  | restart

/-- One step; calls on one session do not overlap. -/
def Db.step (db : Db rocks) : Call → Db rocks
  | .begin id entry =>
    match db.inFlight id with
    | some _ => db
    | none => { db with
        inFlight := update db.inFlight id (some (nextSeq rocks db.logs id, entry)) }
  | .write id =>
    match db.inFlight id with
    | none => db
    | some (seq, entry) =>
      { logs := rocks.put db.logs (logKey id seq) (codec.encode entry)
        inFlight := update db.inFlight id none }
  | .fail id => { db with inFlight := update db.inFlight id none }
  | .restart => { db with inFlight := fun _ => none }

/-- A database without entries. -/
def Db.empty : Db rocks := ⟨rocks.empty, fun _ => none⟩

variable (calls : List Call)

/-- The store after a run from an empty database. -/
def run : Db rocks := calls.foldl (Db.step rocks codec) (.empty rocks)

/-! ### What it is for -/

/-- The log of each session, and the entries that are being appended. -/
structure Logs where
  entries : String → List StoredEntry
  inFlight : String → Option StoredEntry

/-- One step: an entry is appended when it is written. -/
def Logs.step (l : Logs) : Call → Logs
  | .begin id entry =>
    match l.inFlight id with
    | some _ => l
    | none => { l with inFlight := update l.inFlight id (some entry) }
  | .write id =>
    match l.inFlight id with
    | none => l
    | some entry =>
      { entries := update l.entries id (l.entries id ++ [entry])
        inFlight := update l.inFlight id none }
  | .fail id => { l with inFlight := update l.inFlight id none }
  | .restart => { l with inFlight := fun _ => none }

/-- No entries at all. -/
def Logs.empty : Logs := ⟨fun _ => [], fun _ => none⟩

/-- The entries a run has appended to each session. -/
def appended : String → List StoredEntry :=
  (calls.foldl Logs.step .empty).entries

/-! ### The order of keys -/

open Json (decimal ofDecimal isDecimal)

variable (seq : ℕ)

lemma isDecimal_seqDigits : ∀ c ∈ seqDigits seq, isDecimal c = true := by
  intro c hc
  rw [seqDigits, List.leftpad] at hc
  rcases List.mem_append.mp hc with hc | hc
  · rw [List.eq_of_mem_replicate hc]
    rfl
  · exact List.all_eq_true.mp (Json.decimal_spec seq).1 c hc

lemma ofDecimal_seqDigits : ofDecimal (seqDigits seq) = seq := by
  have hzeros : ofDecimal ([] ++ List.replicate (8 - (decimal seq).length) '0') = 0 :=
    (Json.ofDecimal_zeros [] _).trans (Nat.zero_mul _)
  rw [List.nil_append] at hzeros
  rw [seqDigits, List.leftpad, Json.ofDecimal_append, hzeros, Nat.zero_mul, Nat.zero_add]
  exact (Json.decimal_spec seq).2.2

/-- Below 10^8 a number has eight digits. -/
lemma length_seqDigits {seq : ℕ} (h : seq < 10 ^ 8) : (seqDigits seq).length = 8 := by
  have hlength : (decimal seq).length ≤ 8 := by
    obtain ⟨hall, hne, hvalue⟩ := Json.decimal_spec seq
    rcases Json.intText_decimal seq with hzero | ⟨hdigits, hlead⟩
    · rw [hzero]
      decide
    · obtain ⟨d, ds, hds⟩ := List.exists_cons_of_ne_nil hne
      rw [hds] at hdigits hlead hvalue ⊢
      have hle : 10 ^ ds.length ≤ ofDecimal (d :: ds) :=
        Json.le_ofDecimal (hdigits.2 d List.mem_cons_self) (by simpa using hlead)
      have hlt := (Nat.pow_lt_pow_iff_right (by norm_num)).mp ((hle.trans_eq hvalue).trans_lt h)
      exact hlt
  rw [seqDigits, List.leftpad, List.length_append, List.length_replicate]
  omega

lemma toNat_ofNat_digit {c : Char} (h : isDecimal c = true) :
    (UInt8.ofNat c.toNat).toNat = c.toNat := by
  simp only [isDecimal, Bool.and_eq_true, decide_eq_true_eq] at h
  exact Utf8.toNat_ofNat_of_lt (by omega)

/-- As many digits are in the order of their numbers. -/
lemma asciiBytes_lt {as bs : List Char} (has : ∀ c ∈ as, isDecimal c = true)
    (hbs : ∀ c ∈ bs, isDecimal c = true) (hlength : as.length = bs.length)
    (hlt : ofDecimal as < ofDecimal bs) :
    List.compareLex compare (asciiBytes as) (asciiBytes bs) = .lt := by
  induction as generalizing bs with
  | nil =>
    rw [List.length_eq_zero_iff.mp hlength.symm] at hlt
    exact absurd hlt (lt_irrefl _)
  | cons a as ih =>
    cases bs with
    | nil => cases hlength
    | cons b bs =>
      obtain ⟨ha, has⟩ := List.forall_mem_cons.mp has
      obtain ⟨hb, hbs⟩ := List.forall_mem_cons.mp hbs
      have hlen : as.length = bs.length := Nat.succ.inj hlength
      rw [Json.ofDecimal_cons, Json.ofDecimal_cons, hlen] at hlt
      have hfirst : compare (UInt8.ofNat a.toNat) (UInt8.ofNat b.toNat)
          = compare a.toNat b.toNat := by
        rw [UInt8.compare_eq_toNat_compare_toNat, toNat_ofNat_digit ha, toNat_ofNat_digit hb]
      have hle : a.toNat - 48 ≤ b.toNat - 48 := by
        by_contra hgt
        have hbound := Json.ofDecimal_lt hbs
        have hmul : (b.toNat - 48 + 1) * 10 ^ bs.length ≤ (a.toNat - 48) * 10 ^ bs.length :=
          Nat.mul_le_mul_right _ (by omega)
        rw [Nat.add_mul, Nat.one_mul] at hmul
        omega
      simp only [isDecimal, Bool.and_eq_true, decide_eq_true_eq] at ha hb
      rw [asciiBytes, asciiBytes, List.map_cons, List.map_cons, List.compareLex_cons_cons, hfirst]
      rcases (show a.toNat ≤ b.toNat by omega).lt_or_eq with hless | heq
      · rw [Nat.compare_eq_lt.mpr hless]
        rfl
      · rw [heq, Nat.compare_eq_eq.mpr rfl]
        rw [heq] at hlt
        exact ih has hbs hlen (by omega)

/-- **Keys of eight digits are in the order of their numbers.** -/
lemma logKey_lt (id : String) {i j : ℕ} (hij : i < j) (hj : j < 10 ^ 8) :
    List.compareLex compare (logKey id i) (logKey id j) = .lt := by
  rw [logKey, logKey, compare_append]
  refine asciiBytes_lt (isDecimal_seqDigits i) (isDecimal_seqDigits j) ?_ ?_
  · exact (length_seqDigits (hij.trans hj)).trans (length_seqDigits hj).symm
  · rwa [ofDecimal_seqDigits, ofDecimal_seqDigits]

/-! ### What a key holds -/

/-- A session id without NUL bytes. -/
def NulFree (id : String) : Prop := ∀ c ∈ id.toList, c.toNat ≠ 0

instance (id : String) : Decidable (NulFree id) := List.decidableBAll _ _

lemma zero_notMem_encode {id : String} (h : NulFree id) : (0 : UInt8) ∉ Utf8.encode id := by
  intro hmem
  obtain ⟨c, hc, hbyte⟩ := List.mem_flatMap.mp hmem
  exact h c hc (Utf8.toNat_eq_zero_of_mem hbyte)

/-- The id is what precedes the first NUL. -/
lemma logPrefix_append_inj {id id' : String} (hid : NulFree id) (hid' : NulFree id')
    {t t' : Bytes} (h : logPrefix id ++ t = logPrefix id' ++ t') : id = id' ∧ t = t' := by
  have hfirst {x y : Bytes} (hx : (0 : UInt8) ∉ x) : (x ++ 0 :: y).takeWhile (· ≠ 0) = x := by
    rw [List.takeWhile_append_of_pos fun b hb => by
      simpa using fun hzero : b = 0 => hx (hzero ▸ hb)]
    simp
  simp only [logPrefix, List.append_assoc, List.singleton_append] at h
  have hbytes : Utf8.encode id = Utf8.encode id' := by
    rw [← hfirst (zero_notMem_encode hid), h, hfirst (zero_notMem_encode hid')]
  rw [hbytes, List.append_cancel_left_eq, List.cons.injEq] at h
  exact ⟨Utf8.encode_injective hbytes, h.2⟩

/-- The digits of a key denote its number. -/
lemma foldl_formatSeq : (formatSeq seq).foldl (fun n b => n * 10 + (b.toNat - 48)) 0 = seq := by
  have hfold : ∀ (cs : List Char), (∀ c ∈ cs, isDecimal c = true) → ∀ n,
      (asciiBytes cs).foldl (fun n b => n * 10 + (b.toNat - 48)) n
        = cs.foldl (fun n c => n * 10 + (c.toNat - 48)) n := by
    intro cs hcs
    induction cs with
    | nil => exact fun _ => rfl
    | cons c cs ih =>
      intro n
      obtain ⟨hc, hcs⟩ := List.forall_mem_cons.mp hcs
      rw [asciiBytes, List.map_cons, List.foldl_cons, List.foldl_cons, toNat_ofNat_digit hc]
      exact ih hcs _
  exact (hfold _ (isDecimal_seqDigits seq) 0).trans (ofDecimal_seqDigits seq)

lemma digit_of_mem_formatSeq {seq : ℕ} {b : UInt8} (h : b ∈ formatSeq seq) :
    48 ≤ b.toNat ∧ b.toNat ≤ 57 := by
  obtain ⟨c, hc, rfl⟩ := List.mem_map.mp h
  have hdigit := isDecimal_seqDigits seq c hc
  rw [toNat_ofNat_digit hdigit]
  simpa [isDecimal] using hdigit

lemma formatSeq_ne_nil : formatSeq seq ≠ [] := by
  intro h
  have hlength := congrArg List.length h
  rw [formatSeq, asciiBytes, List.length_map, seqDigits, List.leftpad, List.length_append,
    List.length_replicate, List.length_nil] at hlength
  omega

/-- The number is read off a key. -/
lemma parse_afterLastNul {seq : ℕ} (hseq : seq < 2 ^ 64) (id : String) :
    parseUInt64 (afterLastNul (logKey id seq)) = some seq := by
  have hnul : afterLastNul (logKey id seq) = formatSeq seq := by
    have hkeep : ∀ b ∈ (formatSeq seq).reverse, (decide (b ≠ 0)) = true := by
      intro b hb
      have hdigit := digit_of_mem_formatSeq (List.mem_reverse.mp hb)
      refine decide_eq_true ?_
      rintro rfl
      simp at hdigit
    rw [afterLastNul, List.rtakeWhile, logKey, logPrefix, List.append_assoc, List.reverse_append,
      List.singleton_append, List.reverse_cons, List.append_assoc,
      List.takeWhile_append_of_pos hkeep]
    simp
  have hplus : (formatSeq seq).head? ≠ some 43 := by
    intro hhead
    have hdigit := digit_of_mem_formatSeq (List.mem_of_mem_head? hhead)
    simp at hdigit
  have hall : (formatSeq seq).all (fun b => 48 ≤ b.toNat && b.toNat ≤ 57) = true :=
    List.all_eq_true.mpr fun b hb => by simpa using digit_of_mem_formatSeq hb
  rw [hnul, parseUInt64, if_neg hplus]
  dsimp only
  rw [if_pos ⟨formatSeq_ne_nil seq, hall⟩, foldl_formatSeq, if_pos hseq]

lemma formatSeq_inj {i j : ℕ} (h : formatSeq i = formatSeq j) : i = j := by
  rw [← foldl_formatSeq i, h, foldl_formatSeq]

/-- **Each key belongs to one session and one number.** -/
lemma logKey_inj {id id' : String} (hid : NulFree id) (hid' : NulFree id') {i j : ℕ}
    (h : logKey id i = logKey id' j) : id = id' ∧ i = j := by
  obtain ⟨hsession, hseq⟩ := logPrefix_append_inj hid hid' h
  exact ⟨hsession, formatSeq_inj hseq⟩

/-- A key begins with the prefix of its own session only. -/
lemma eq_of_logPrefix_prefix {id id' : String} (hid : NulFree id) (hid' : NulFree id') {i : ℕ}
    (h : logPrefix id <+: logKey id' i) : id = id' := by
  obtain ⟨t, ht⟩ := h
  exact (logPrefix_append_inj hid hid' ht).1

/-! ### The store refines the logs -/

/-- The store holds the entries of every log under their places in it, and a call in flight has
read the length of its log. -/
structure Refines (codec : JsonCodec StoredEntry) (db : Db rocks) (l : Logs) : Prop where
  inFlight : ∀ id, db.inFlight id = (l.inFlight id).map fun entry => ((l.entries id).length, entry)
  logs : ∀ key value, rocks.get db.logs key = some value ↔
    ∃ id i entry, NulFree id ∧ (l.entries id)[i]? = some entry
      ∧ key = logKey id i ∧ value = codec.encode entry

variable {rocks : RocksDb} {codec : JsonCodec StoredEntry} {db : Db rocks} {l : Logs} {id : String}

/-- The entries whose keys begin with a session's prefix are those of its log. -/
lemma Refines.mem_iff (h : Refines rocks codec db l) (hid : NulFree id) (e : Bytes × Bytes) :
    rocks.get db.logs e.1 = some e.2 ∧ logPrefix id <+: e.1 ↔
      ∃ i entry, (l.entries id)[i]? = some entry ∧ e = (logKey id i, codec.encode entry) := by
  obtain ⟨key, value⟩ := e
  rw [h.logs]
  constructor
  · rintro ⟨⟨id', i, entry, hid', hi, rfl, rfl⟩, hprefix⟩
    obtain rfl := eq_of_logPrefix_prefix hid hid' hprefix
    exact ⟨i, entry, hi, rfl⟩
  · rintro ⟨i, entry, hi, he⟩
    obtain ⟨rfl, rfl⟩ := Prod.mk.inj he
    exact ⟨⟨id, i, entry, hid, hi, rfl, rfl⟩, formatSeq i, rfl⟩

/-- The one byte below 1. -/
lemma compare_one (b : UInt8) : compare b 1 = .lt ↔ b = 0 := by
  rw [UInt8.compare_eq_toNat_compare_toNat, Nat.compare_eq_lt, ← UInt8.toNat_inj]
  exact Nat.lt_one_iff

lemma upperBound_eq (id : String) : (logPrefix id).dropLast ++ [1] = Utf8.encode id ++ [1] := by
  rw [logPrefix, List.dropLast_concat]

/-- **The next sequence number is the length of the log.** -/
lemma Refines.nextSeq_eq (h : Refines rocks codec db l) (hid : NulFree id)
    (hlength : (l.entries id).length ≤ 10 ^ 8) :
    nextSeq rocks db.logs id = (l.entries id).length := by
  rw [nextSeq, upperBound_eq]
  rcases Nat.eq_zero_or_pos (l.entries id).length with hempty | hpos
  · -- no key begins with the prefix, so neither does the one that is found
    cases hlast : rocks.lastBelow db.logs (Utf8.encode id ++ [1]) with
    | none => exact hempty.symm
    | some e =>
      have hnot : (logPrefix id).isPrefixOf e.1 = false := by
        refine Bool.eq_false_iff.mpr fun hp => ?_
        obtain ⟨i, entry, hi, -⟩ := (h.mem_iff hid e).mp
          ⟨rocks.get_of_lastBelow _ _ e hlast, List.isPrefixOf_iff_prefix.mp hp⟩
        exact absurd (List.getElem?_eq_some_iff.mp hi).1 (by omega)
      simp only [hnot, Bool.false_eq_true, if_false, hempty]
  · -- the greatest key is that of the last entry
    obtain ⟨n, hn⟩ : ∃ n, (l.entries id).length = n + 1 := ⟨_, (Nat.succ_pred_eq_of_pos hpos).symm⟩
    obtain ⟨entry, hentry⟩ : ∃ entry, (l.entries id)[n]? = some entry :=
      ⟨_, List.getElem?_eq_getElem (by omega)⟩
    obtain ⟨hmem, hprefix⟩ := (h.mem_iff hid _).mpr ⟨n, entry, hentry, rfl⟩
    have hlast : rocks.lastBelow db.logs (Utf8.encode id ++ [1])
        = some (logKey id n, codec.encode entry) := by
      refine rocks.lastBelow_concat _ compare_one hmem hprefix fun key value hget hprefix' hlt => ?_
      obtain ⟨i, entry', hi, heq⟩ := (h.mem_iff hid (key, value)).mp ⟨hget, hprefix'⟩
      obtain ⟨rfl, rfl⟩ := Prod.mk.inj heq
      have hle : i ≤ n := by
        have := (List.getElem?_eq_some_iff.mp hi).1
        omega
      rcases hle.lt_or_eq with hless | rfl
      · have hgt := OrientedCmp.gt_of_lt (logKey_lt id hless (by omega))
        rw [hgt] at hlt
        cases hlt
      · exact not_lt_self _ hlt
    have hpre : (logPrefix id).isPrefixOf (logKey id n) = true :=
      List.isPrefixOf_iff_prefix.mpr hprefix
    simp only [hlast, hpre, if_true, parse_afterLastNul (show n < 2 ^ 64 by omega), hn]
    omega

/-- **A log is read back in order.** -/
lemma Refines.loadLog_eq (h : Refines rocks codec db l) (hid : NulFree id)
    (hlength : (l.entries id).length ≤ 10 ^ 8) : loadLog rocks codec db.logs id = l.entries id := by
  have hscan : rocks.scanPrefix db.logs (logPrefix id)
      = (l.entries id).zipIdx.map fun e => (logKey id e.2, codec.encode e.1) := by
    let below (e e' : Bytes × Bytes) : Prop := List.compareLex compare e.1 e'.1 = .lt
    have : Std.Irrefl below := ⟨fun e => not_lt_self e.1⟩
    have : Std.Antisymm below := ⟨fun e e' hlt hgt =>
      absurd (hgt.symm.trans (OrientedCmp.gt_of_lt hlt)) (by decide)⟩
    refine List.Pairwise.eq_of_mem_iff (r := below) (rocks.scanPrefix_ordered _ _) ?_ fun e => ?_
    · rw [List.pairwise_map]
      refine List.pairwise_iff_getElem.mpr fun i j hi hj hij => ?_
      rw [List.length_zipIdx] at hi hj
      simp only [List.getElem_zipIdx, Nat.zero_add]
      exact logKey_lt id hij (by omega)
    · rw [rocks.mem_scanPrefix, h.mem_iff hid, List.mem_map]
      constructor
      · rintro ⟨i, entry, hi, rfl⟩
        exact ⟨(entry, i), List.mk_mem_zipIdx_iff_getElem?.mpr hi, rfl⟩
      · rintro ⟨⟨entry, i⟩, hi, rfl⟩
        exact ⟨i, entry, List.mk_mem_zipIdx_iff_getElem?.mp hi, rfl⟩
  rw [loadLog, hscan, List.filterMap_map]
  have hdecode : ((fun e : Bytes × Bytes => codec.decode e.2) ∘
      fun e : StoredEntry × ℕ => (logKey id e.2, codec.encode e.1)) = some ∘ Prod.fst :=
    funext fun e => codec.decode_encode e.1
  rw [hdecode, ← List.filterMap_map, List.filterMap_some, List.zipIdx_map_fst]

/-! ### Runs -/

/-- The ids of a call have no NUL bytes. -/
def Call.NulFree : Call → Prop
  | .begin id _ => RocksDbBackend.NulFree id
  | .write id => RocksDbBackend.NulFree id
  | .fail id => RocksDbBackend.NulFree id
  | .restart => True

instance : (call : Call) → Decidable call.NulFree
  | .begin id _ => inferInstanceAs (Decidable (RocksDbBackend.NulFree id))
  | .write id => inferInstanceAs (Decidable (RocksDbBackend.NulFree id))
  | .fail id => inferInstanceAs (Decidable (RocksDbBackend.NulFree id))
  | .restart => inferInstanceAs (Decidable True)

lemma refines_empty : Refines rocks codec (.empty rocks) .empty := by
  refine ⟨fun _ => rfl, fun key value => ?_⟩
  rw [Db.empty, rocks.get_empty]
  simp [Logs.empty]

/-- Setting what is in flight on both sides. -/
lemma Refines.setInFlight (h : Refines rocks codec db l) (x : Option StoredEntry) :
    Refines rocks codec
      { db with
        inFlight := update db.inFlight id
          (x.map fun entry => ((l.entries id).length, entry)) }
      { l with inFlight := update l.inFlight id x } := by
  refine ⟨fun id' => ?_, h.logs⟩
  by_cases hid' : id' = id
  · subst hid'
    simp only [Function.update_self]
  · simp only [Function.update_of_ne hid']
    exact h.inFlight id'

/-- What a log holds after an entry is added. -/
lemma getElem?_update_append (entries : String → List StoredEntry) (id : String)
    (entry : StoredEntry) (id' : String) (i : ℕ) (x : StoredEntry) :
    (update entries id (entries id ++ [entry]) id')[i]? = some x ↔
      (entries id')[i]? = some x ∨ id' = id ∧ i = (entries id).length ∧ x = entry := by
  by_cases hid : id' = id
  · subst hid
    rw [Function.update_self, List.getElem?_append]
    split_ifs with hi
    · have hne : i ≠ (entries id').length := by omega
      simp [hne]
    · have hnone : (entries id')[i]? = none := List.getElem?_eq_none (by omega)
      have hsingle : [entry][i - (entries id').length]? = some x
          ↔ i = (entries id').length ∧ x = entry := by
        rw [List.getElem?_singleton]
        split_ifs with hzero
        · simp [show i = (entries id').length by omega, eq_comm]
        · simp [show i ≠ (entries id').length by omega]
      simp [hnone, hsingle]
  · simp [hid]

/-- An entry is added to a log under its place. -/
lemma Refines.write (h : Refines rocks codec db l) (hid : NulFree id) (entry : StoredEntry) :
    Refines rocks codec
      { logs := rocks.put db.logs (logKey id (l.entries id).length) (codec.encode entry)
        inFlight := update db.inFlight id none }
      { entries := update l.entries id (l.entries id ++ [entry])
        inFlight := update l.inFlight id none } := by
  refine ⟨fun id' => ?_, fun key value => ?_⟩
  · by_cases hid' : id' = id
    · subst hid'
      simp only [Function.update_self, Option.map_none]
    · simp only [Function.update_of_ne hid']
      exact h.inFlight id'
  · simp only [getElem?_update_append]
    by_cases hkey : logKey id (l.entries id).length = key
    · subst hkey
      rw [rocks.get_put_self]
      constructor
      · intro hvalue
        exact ⟨id, _, entry, hid, .inr ⟨rfl, rfl, rfl⟩, rfl, (Option.some.inj hvalue).symm⟩
      · rintro ⟨id', i, entry', hid', hi, hkey, rfl⟩
        obtain ⟨rfl, rfl⟩ := logKey_inj hid hid' hkey
        rcases hi with hi | ⟨-, -, rfl⟩
        · exact absurd (List.getElem?_eq_some_iff.mp hi).1 (lt_irrefl _)
        · rfl
    · rw [rocks.get_put_ne _ _ _ _ hkey, h.logs]
      constructor
      · rintro ⟨id', i, entry', hid', hi, rfl, rfl⟩
        exact ⟨id', i, entry', hid', .inl hi, rfl, rfl⟩
      · rintro ⟨id', i, entry', hid', hi | ⟨rfl, rfl, rfl⟩, rfl, rfl⟩
        · exact ⟨id', i, entry', hid', hi, rfl, rfl⟩
        · exact absurd rfl hkey

/-- **Each step keeps the refinement**, as long as no log has more than 10^8 entries. -/
lemma Refines.step (h : Refines rocks codec db l) {call : Call} (hids : call.NulFree)
    (hlength : ∀ id, (l.entries id).length ≤ 10 ^ 8) :
    Refines rocks codec (db.step rocks codec call) (l.step call) := by
  cases call with
  | begin id entry =>
    rw [Db.step, Logs.step, h.inFlight]
    cases l.inFlight id with
    | some _ => exact h
    | none =>
      rw [Option.map_none]
      dsimp only
      rw [h.nextSeq_eq hids (hlength id)]
      exact h.setInFlight (some entry)
  | write id =>
    rw [Db.step, Logs.step, h.inFlight]
    cases l.inFlight id with
    | none => exact h
    | some entry => exact h.write hids entry
  | fail id => exact h.setInFlight none
  | restart => exact ⟨fun _ => rfl, h.logs⟩

/-- A step adds at most one entry to a log. -/
lemma Logs.length_step (l : Logs) (call : Call) (id : String) :
    (l.entries id).length ≤ ((l.step call).entries id).length
      ∧ ((l.step call).entries id).length ≤ (l.entries id).length + 1 := by
  cases call with
  | begin id' entry => rw [Logs.step]; split <;> exact ⟨le_rfl, Nat.le_succ _⟩
  | write id' =>
    rw [Logs.step]
    split
    · exact ⟨le_rfl, Nat.le_succ _⟩
    · by_cases hid : id = id'
      · subst hid
        simp
      · simp [hid]
  | fail id' => exact ⟨le_rfl, Nat.le_succ _⟩
  | restart => exact ⟨le_rfl, Nat.le_succ _⟩

/-- **The store refines the logs along every run** in which no log grows beyond 10^8 entries. -/
lemma refines_run (rocks : RocksDb) (codec : JsonCodec StoredEntry) {calls : List Call}
    (hids : ∀ call ∈ calls, call.NulFree) (hlength : ∀ id, (appended calls id).length ≤ 10 ^ 8) :
    Refines rocks codec (run rocks codec calls) (calls.foldl Logs.step .empty) := by
  induction calls using List.reverseRecOn with
  | nil => exact refines_empty
  | append_singleton calls call ih =>
    simp only [appended, List.foldl_append, List.foldl_cons, List.foldl_nil] at hlength
    have hbefore : ∀ id, (appended calls id).length ≤ 10 ^ 8 := fun id =>
      (Logs.length_step _ call id).1.trans (hlength id)
    rw [run, List.foldl_append, List.foldl_append]
    exact (ih (fun c hc => hids c (List.mem_append_left _ hc)) hbefore).step
      (hids call (by simp)) hbefore

/-- **As long as no session has more than 10^8 entries, every log is read back as what was
appended to it.** -/
theorem rocksDb_log_order (rocks : RocksDb) (codec : JsonCodec StoredEntry) {calls : List Call}
    (hids : ∀ call ∈ calls, call.NulFree) (hlength : ∀ id, (appended calls id).length ≤ 10 ^ 8)
    {id : String} (hid : NulFree id) :
    loadLog rocks codec (run rocks codec calls).logs id = appended calls id :=
  (refines_run rocks codec hids hlength).loadLog_eq hid (hlength id)

lemma length_appended_le (id : String) : (appended calls id).length ≤ calls.length := by
  induction calls using List.reverseRecOn with
  | nil => exact le_rfl
  | append_singleton calls call ih =>
    simp only [appended, List.foldl_append, List.foldl_cons, List.foldl_nil, List.length_append,
      List.length_singleton]
    exact (Logs.length_step _ call id).2.trans (Nat.succ_le_succ ih)

/-- A column family in memory. -/
def memoryDb : RocksDb := .tree ..

/-- Two sessions whose appends interleave, one of them interrupted by a restart. -/
def interleavedCalls : List Call :=
  [.begin "s" (FileBackend.storedMessage "m1"), .begin "s1" (FileBackend.storedMessage "m1"),
    .write "s1", .write "s", .begin "s" (FileBackend.storedMessage "m2"), .restart,
    .begin "s" (FileBackend.storedMessage "m3"), .write "s"]

theorem rocksDb_log_order_interleaved :
    appended interleavedCalls "s"
        = [FileBackend.storedMessage "m1", FileBackend.storedMessage "m3"] ∧
      loadLog memoryDb FileBackend.entryJson
          (run memoryDb FileBackend.entryJson interleavedCalls).logs "s"
        = appended interleavedCalls "s" := by
  refine ⟨?_, rocksDb_log_order memoryDb FileBackend.entryJson ?_ (fun id => ?_) ?_⟩
  · simp [appended, interleavedCalls, Logs.step, Logs.empty, Function.update]
  · decide
  · exact (length_appended_le _ id).trans (by decide)
  · decide

/-! ### The ninth digit -/

lemma logKey_ninth (id : String) :
    List.compareLex compare (logKey id (10 ^ 8)) (logKey id (10 ^ 8 - 1)) = .lt := by
  rw [logKey, logKey, compare_append]
  decide

/-- After 10^8 entries the next one is not read back last. -/
lemma Refines.getLast?_loadLog (h : Refines rocks codec db l) (hid : NulFree id)
    (hlength : (l.entries id).length = 10 ^ 8 + 1) :
    (loadLog rocks codec db.logs id).getLast? = (l.entries id)[10 ^ 8 - 1]? := by
  obtain ⟨entry, hentry⟩ : ∃ entry, (l.entries id)[10 ^ 8 - 1]? = some entry :=
    ⟨_, List.getElem?_eq_getElem (by omega)⟩
  have hlast : (rocks.scanPrefix db.logs (logPrefix id)).getLast?
      = some (logKey id (10 ^ 8 - 1), codec.encode entry) := by
    refine getLast?_of_max (rocks.scanPrefix_ordered _ _) ?_ fun e he hlt => ?_
    · rw [rocks.mem_scanPrefix, h.mem_iff hid]
      exact ⟨_, entry, hentry, rfl⟩
    · rw [rocks.mem_scanPrefix, h.mem_iff hid] at he
      obtain ⟨i, entry', hi, rfl⟩ := he
      have hbound := (List.getElem?_eq_some_iff.mp hi).1
      have hcases : i < 10 ^ 8 - 1 ∨ i = 10 ^ 8 - 1 ∨ i = 10 ^ 8 := by omega
      rcases hcases with hless | rfl | rfl
      · rw [OrientedCmp.gt_of_lt (logKey_lt id hless (by omega))] at hlt
        cases hlt
      · exact not_lt_self _ hlt
      · rw [OrientedCmp.gt_of_lt (logKey_ninth id)] at hlt
        cases hlt
  obtain ⟨es, hes⟩ := List.getLast?_eq_some_iff.mp hlast
  rw [loadLog, hes, List.filterMap_append, hentry]
  simp [codec.decode_encode]

/-- Appending entries to a session, one after the other. -/
def appends (id : String) (entries : List StoredEntry) : List Call :=
  entries.flatMap fun entry => [.begin id entry, .write id]

lemma foldl_appends (l : Logs) (hnone : l.inFlight id = none) (entries : List StoredEntry) :
    (appends id entries).foldl Logs.step l
      = { l with entries := update l.entries id (l.entries id ++ entries) } := by
  induction entries generalizing l with
  | nil => simp [appends]
  | cons entry entries ih =>
    have hfirst : (l.step (.begin id entry)).step (.write id)
        = { l with entries := update l.entries id (l.entries id ++ [entry]) } := by
      simp [Logs.step, hnone]
    rw [appends, List.flatMap_cons, List.foldl_append, List.foldl_cons, List.foldl_cons,
      List.foldl_nil, hfirst, ← appends]
    refine (ih ⟨update l.entries id (l.entries id ++ [entry]), l.inFlight⟩ hnone).trans ?_
    simp

lemma appended_appends (id : String) (entries : List StoredEntry) :
    appended (appends id entries) = update (fun _ => []) id entries := by
  rw [appended, foldl_appends _ rfl]
  rfl

lemma nulFree_appends (hid : NulFree id) (entries : List StoredEntry) :
    ∀ call ∈ appends id entries, call.NulFree := by
  intro call hcall
  obtain ⟨entry, -, hcall⟩ := List.mem_flatMap.mp hcall
  simp only [List.mem_cons, List.not_mem_nil, or_false] at hcall
  rcases hcall with rfl | rfl
  · exact hid
  · exact hid

lemma loadLog_appends_ne (rocks : RocksDb) (codec : JsonCodec StoredEntry) (hid : NulFree id)
    {entries : List StoredEntry} (hlength : entries.length = 10 ^ 8) {entry : StoredEntry}
    (hlast : entries.getLast? ≠ some entry) :
    loadLog rocks codec (run rocks codec (appends id (entries ++ [entry]))).logs id
      ≠ appended (appends id (entries ++ [entry])) id := by
  have hbound (id' : String) : (appended (appends id entries) id').length ≤ 10 ^ 8 := by
    rw [appended_appends, Function.update_apply]
    split_ifs
    · exact hlength.le
    · exact Nat.zero_le _
  have hbegun (id' : String) :
      ((((appends id entries).foldl Logs.step .empty).step (.begin id entry)).entries id').length
        ≤ 10 ^ 8 := by
    rw [Logs.step]
    split <;> exact hbound id'
  have hrefines : Refines rocks codec (run rocks codec (appends id (entries ++ [entry])))
      ((appends id (entries ++ [entry])).foldl Logs.step .empty) := by
    have hsplit : appends id (entries ++ [entry])
        = appends id entries ++ [.begin id entry, .write id] := List.flatMap_append
    rw [run, hsplit, List.foldl_append, List.foldl_append]
    have hbefore := refines_run rocks codec (nulFree_appends hid entries) hbound
    have hread : Call.NulFree (.begin id entry) := hid
    have hwritten : Call.NulFree (.write id) := hid
    exact (hbefore.step hread hbound).step hwritten hbegun
  have hentries : ((appends id (entries ++ [entry])).foldl Logs.step .empty).entries id
      = entries ++ [entry] := by
    rw [← appended, appended_appends, Function.update_self]
  have hread := hrefines.getLast?_loadLog hid (by
    rw [hentries, List.length_append, hlength, List.length_singleton])
  rw [hentries, List.getElem?_append_left (by omega), ← hlength, ← List.getLast?_eq_getElem?]
    at hread
  intro heq
  rw [heq, appended, hentries, List.getLast?_append, List.getLast?_singleton] at hread
  exact hlast hread.symm

/-- 10^8 entries, and one more. -/
def overflowingCalls : List Call :=
  appends "s" (List.replicate (10 ^ 8) (FileBackend.storedMessage "m1")
    ++ [FileBackend.storedMessage "m2"])

/-- **The entry after 10^8 others is not read back after them.** -/
theorem rocksDb_order_breaks :
    (∀ call ∈ overflowingCalls, call.NulFree) ∧
      loadLog memoryDb FileBackend.entryJson
          (run memoryDb FileBackend.entryJson overflowingCalls).logs "s"
        ≠ appended overflowingCalls "s" := by
  have hid : NulFree "s" := by decide
  refine ⟨nulFree_appends hid _, loadLog_appends_ne _ _ hid List.length_replicate ?_⟩
  rw [List.getLast?_replicate, if_neg (by norm_num)]
  intro h
  have hmessage : "m1" = "m2" := congrArg (·.entry.messageId) (Option.some.inj h)
  exact absurd hmessage (by decide)

end MacpRuntime.RocksDbBackend
