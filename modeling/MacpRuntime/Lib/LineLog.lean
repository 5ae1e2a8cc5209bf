import MacpRuntime.Lib.Utf8

/-!
An append-only text file with one record a line, whose writes may be cut short.

* `load`: the records of a file.  It fails on malformed UTF-8 and skips lines that are no records;
* `LineWrite.Clean`: a write that starts a line of its own and is not cut inside a character;
* `load_of_clean`: **after clean writes the file holds exactly the records written in full**.
-/

namespace LineLog

/-! ### Lines -/

/-- The character LF. -/
def newline : Char := Char.ofNat 10

/-- The character CR. -/
def carriageReturn : Char := Char.ofNat 13

/-- A text cut after each newline. -/
def splitInclusive : List Char → List (List Char)
  | [] => []
  | c :: cs =>
    if c = newline then [c] :: splitInclusive cs
    else
      match splitInclusive cs with
      | [] => [[c]]
      | l :: ls => (c :: l) :: ls

/-- A line without its ending: a newline, and a carriage return before it. -/
def stripEnding (l : List Char) : List Char :=
  if l.getLast? = some newline then
    if l.dropLast.getLast? = some carriageReturn then l.dropLast.dropLast else l.dropLast
  else l

/-- The lines of a text, without their endings. -/
def lines (cs : List Char) : List (List Char) := (splitInclusive cs).map stripEnding

/-- A character that stands in a line. -/
def Printable (c : Char) : Prop := 32 ≤ c.toNat

instance (c : Char) : Decidable (Printable c) := inferInstanceAs (Decidable (32 ≤ c.toNat))

section Lines

variable {cs t rest : List Char}

lemma Printable.ne_newline {c : Char} (h : Printable c) : c ≠ newline := by
  rintro rfl
  exact absurd h (by decide)

lemma splitInclusive_cons_of_ne {c : Char} (hc : c ≠ newline) (l : List Char)
    (ls : List (List Char)) (h : splitInclusive cs = l :: ls) :
    splitInclusive (c :: cs) = (c :: l) :: ls := by
  rw [splitInclusive, if_neg hc, h]

lemma splitInclusive_cons_ne_nil (c : Char) (cs : List Char) : splitInclusive (c :: cs) ≠ [] := by
  rw [splitInclusive]
  split_ifs
  · exact List.cons_ne_nil _ _
  · split <;> exact List.cons_ne_nil _ _

/-- The text up to the first newline is the first line. -/
lemma splitInclusive_line (ht : ∀ c ∈ t, c ≠ newline) (rest : List Char) :
    splitInclusive (t ++ newline :: rest) = (t ++ [newline]) :: splitInclusive rest := by
  induction t with
  | nil => rw [List.nil_append, splitInclusive, if_pos rfl, List.nil_append]
  | cons c t ih =>
    have hrest := ih fun d hd => ht d (List.mem_cons_of_mem _ hd)
    exact splitInclusive_cons_of_ne (ht c List.mem_cons_self) _ _ hrest

/-- A text without a newline is one unended line. -/
lemma splitInclusive_unended (ht : ∀ c ∈ t, c ≠ newline) (hne : t ≠ []) :
    splitInclusive t = [t] := by
  induction t with
  | nil => exact absurd rfl hne
  | cons c t ih =>
    have hc := ht c List.mem_cons_self
    cases t with
    | nil => rw [splitInclusive, if_neg hc, splitInclusive]
    | cons d t =>
      have hrest := ih (fun e he => ht e (List.mem_cons_of_mem _ he)) (List.cons_ne_nil _ _)
      exact splitInclusive_cons_of_ne hc _ _ hrest

/-- What follows an ended line starts a line of its own. -/
lemma splitInclusive_append (h : cs = [] ∨ cs.getLast? = some newline) (t : List Char) :
    splitInclusive (cs ++ t) = splitInclusive cs ++ splitInclusive t := by
  induction cs with
  | nil => rfl
  | cons c cs ih =>
    have hlast : cs = [] ∨ cs.getLast? = some newline := by
      cases cs with
      | nil => exact .inl rfl
      | cons d cs => exact .inr (by simpa using h)
    have hrest := ih hlast
    by_cases hc : c = newline
    · rw [List.cons_append, splitInclusive, if_pos hc, hrest, splitInclusive, if_pos hc,
        List.cons_append]
    · cases cs with
      | nil => simp [hc] at h
      | cons d cs =>
        obtain ⟨l, ls, hls⟩ := List.exists_cons_of_ne_nil (splitInclusive_cons_ne_nil d cs)
        rw [hls] at hrest
        rw [List.cons_append, splitInclusive_cons_of_ne hc _ _ hrest,
          splitInclusive_cons_of_ne hc _ _ hls]
        rfl

lemma lines_append (h : cs = [] ∨ cs.getLast? = some newline) (t : List Char) :
    lines (cs ++ t) = lines cs ++ lines t := by
  rw [lines, splitInclusive_append h, List.map_append, lines, lines]

/-- A line of printable characters, ended. -/
lemma lines_ended (ht : ∀ c ∈ t, Printable c) : lines (t ++ [newline]) = [t] := by
  have hreturn : t.getLast? ≠ some carriageReturn := by
    intro hlast
    exact absurd (ht _ (List.mem_of_getLast? hlast)) (by decide)
  rw [lines, splitInclusive_line (fun c hc => (ht c hc).ne_newline), splitInclusive,
    List.map_singleton, stripEnding, if_pos List.getLast?_concat, List.dropLast_concat,
    if_neg hreturn]

/-- A line of printable characters, unended. -/
lemma lines_unended (ht : ∀ c ∈ t, Printable c) (hne : t ≠ []) : lines t = [t] := by
  have hlast : t.getLast? ≠ some newline := by
    intro hlast
    exact absurd (ht _ (List.mem_of_getLast? hlast)) (by decide)
  rw [lines, splitInclusive_unended (fun c hc => (ht c hc).ne_newline) hne, List.map_singleton,
    stripEnding, if_neg hlast]

end Lines

/-! ### Records -/

/-- The characters with the Unicode property `White_Space`. -/
def isWhitespace (c : Char) : Bool :=
  let n := c.toNat
  (9 ≤ n && n ≤ 13) || n == 32 || n == 0x85 || n == 0xA0 || n == 0x1680
    || (0x2000 ≤ n && n ≤ 0x200A) || n == 0x2028 || n == 0x2029 || n == 0x202F || n == 0x205F
    || n == 0x3000

/-- A record as one line of text. -/
structure LineCodec (α : Type*) where
  write : α → List Char
  read : List Char → Option α
  read_write : ∀ a, read (write a) = some a
  printable : ∀ a, ∀ c ∈ write a, Printable c
  visible : ∀ a, (write a).all isWhitespace = false
  read_beginning : ∀ a p, p <+: write a → p ≠ write a → read p = none

variable {α : Type*} (codec : LineCodec α)

/-- The records of a text. -/
def records (text : List Char) : List α :=
  (lines text).filterMap fun l => if l.all isWhitespace then none else codec.read l

/-- The records of a file, if it is well-formed UTF-8. -/
def load (file : List UInt8) : Option (List α) :=
  (Utf8.decode file).map fun text => records codec text.toList

/-- A write of a record, made in full or cut after some bytes. -/
inductive LineWrite (α : Type*) where
  | full (a : α)
  | torn (a : α) (n : ℕ)
  deriving DecidableEq, Repr

/-- The line of a record. -/
def line (a : α) : List UInt8 := Utf8.encode (String.ofList (codec.write a ++ [newline]))

/-- The bytes a write leaves. -/
def LineWrite.bytes : LineWrite α → List UInt8
  | .full a => line codec a
  | .torn a n => (line codec a).take n

/-- The file after some writes. -/
def fileOf (calls : List (LineWrite α)) : List UInt8 := calls.flatMap (·.bytes codec)

/-- The record of a write whose text is in the file as a whole, with or without its newline. -/
def LineWrite.survivor : LineWrite α → Option α
  | .full a => some a
  | .torn a n => if (Utf8.encode (String.ofList (codec.write a))).length ≤ n then some a else none

/-- A cut between two characters. -/
def LineWrite.AtBoundary : LineWrite α → Prop
  | .full _ => True
  | .torn a n => ∃ k, (line codec a).take n
      = Utf8.encode (String.ofList ((codec.write a ++ [newline]).take k))

/-- A write onto a file that is empty or ends in a newline, and not cut inside a character. -/
structure LineWrite.Clean (file : List UInt8) (call : LineWrite α) : Prop where
  own_line : file = [] ∨ file.getLast? = some 10
  boundary : call.AtBoundary codec

/-- Writes that are clean one after the other, from a given file on. -/
def CleanFrom : List UInt8 → List (LineWrite α) → Prop
  | _, [] => True
  | file, call :: calls => call.Clean codec file ∧ CleanFrom (file ++ call.bytes codec) calls

/-! ### Clean writes -/

section Clean

variable {codec} {cs : List Char} {a : α}

lemma records_append (h : cs = [] ∨ cs.getLast? = some newline) (t : List Char) :
    records codec (cs ++ t) = records codec cs ++ records codec t := by
  rw [records, lines_append h, List.filterMap_append, records, records]

/-- A record's line holds the record. -/
lemma records_line (a : α) : records codec (codec.write a ++ [newline]) = [a] := by
  rw [records, lines_ended (codec.printable a), List.filterMap_cons, codec.visible,
    if_neg Bool.false_ne_true, codec.read_write, List.filterMap_nil]

/-- The beginning of a record's line holds the record if all of its text is there, and nothing
otherwise. -/
lemma records_take (a : α) (k : ℕ) :
    records codec ((codec.write a ++ [newline]).take k)
      = if (codec.write a).length ≤ k then [a] else [] := by
  have hlen : (codec.write a ++ [newline]).length = (codec.write a).length + 1 :=
    List.length_append
  split_ifs with hk
  · rcases Nat.eq_or_lt_of_le hk with heq | hlt
    · -- only the newline is missing
      have hne : codec.write a ≠ [] := by
        intro hnil
        have hvis := codec.visible a
        rw [hnil] at hvis
        cases hvis
      rw [← heq, List.take_left, records, lines_unended (codec.printable a) hne,
        List.filterMap_cons, codec.visible, if_neg Bool.false_ne_true, codec.read_write,
        List.filterMap_nil]
    · rw [List.take_of_length_le (by omega), records_line]
  · rw [List.take_append_of_le_length (by omega)]
    have hbegin : (codec.write a).take k <+: codec.write a := List.take_prefix _ _
    have hproper : (codec.write a).take k ≠ codec.write a := by
      intro heq
      have := congrArg List.length heq
      rw [List.length_take] at this
      omega
    rcases hnil : (codec.write a).take k with _ | ⟨c, t⟩
    · rfl
    · rw [← hnil, records, lines_unended
        (fun c hc => codec.printable a c (List.mem_of_mem_take hc)) (by rw [hnil]; simp),
        List.filterMap_cons, codec.read_beginning a _ hbegin hproper, ite_self,
        List.filterMap_nil]

/-- A clean write leaves whole characters, which hold its survivor. -/
lemma LineWrite.AtBoundary.exists_chars {call : LineWrite α} (h : call.AtBoundary codec) :
    ∃ t, call.bytes codec = Utf8.encode (String.ofList t)
      ∧ records codec t = (call.survivor codec).toList := by
  cases call with
  | full a => exact ⟨_, rfl, records_line a⟩
  | torn a n =>
    obtain ⟨k, hk⟩ := h
    refine ⟨_, hk, ?_⟩
    -- the bytes of the text are there exactly if its characters are
    have hcut : (Utf8.encode (String.ofList (codec.write a))).length ≤ n
        ↔ (codec.write a).length ≤ k := by
      have hline : line codec a = Utf8.encode (String.ofList (codec.write a))
          ++ Utf8.encode (String.ofList [newline]) := Utf8.encode_append _ _
      have hbytes := congrArg List.length hk
      rw [List.length_take, hline, List.length_append] at hbytes
      rcases Nat.lt_or_ge k (codec.write a).length with hlt | hge
      · have hshort := (Utf8.length_encode_take (codec.write a) k).not.mpr (by omega)
        rw [List.take_append_of_le_length (by omega)] at hbytes
        have hone : 0 < (Utf8.encode (String.ofList [newline])).length := by decide
        omega
      · have hlong : (Utf8.encode (String.ofList (codec.write a))).length
            ≤ (Utf8.encode (String.ofList ((codec.write a ++ [newline]).take k))).length := by
          rw [List.take_append, List.take_of_length_le hge, Utf8.encode_append,
            List.length_append]
          omega
        omega
    rw [records_take, LineWrite.survivor]
    by_cases hfull : (codec.write a).length ≤ k
    · rw [if_pos hfull, if_pos (hcut.mpr hfull), Option.toList_some]
    · rw [if_neg hfull, if_neg (hcut.not.mpr hfull), Option.toList_none]

/-- **Clean writes add exactly the records written in full.** -/
theorem load_cleanFrom (cs : List Char) {calls : List (LineWrite α)}
    (h : CleanFrom codec (Utf8.encode (String.ofList cs)) calls) :
    load codec (Utf8.encode (String.ofList cs) ++ fileOf codec calls)
      = some (records codec cs ++ calls.filterMap (·.survivor codec)) := by
  induction calls generalizing cs with
  | nil =>
    rw [fileOf, List.flatMap_nil, List.append_nil, List.filterMap_nil, List.append_nil, load,
      Utf8.decode_encode, Option.map_some, String.toList_ofList]
  | cons call calls ih =>
    obtain ⟨⟨hown, hboundary⟩, hrest⟩ := h
    obtain ⟨t, hbytes, hrecords⟩ := hboundary.exists_chars
    have hlast : cs = [] ∨ cs.getLast? = some newline := by
      rcases hown with hnil | hlast
      · left
        have hlen := (Utf8.length_encode_take cs 0).mp (by rw [hnil]; exact Nat.zero_le _)
        exact List.length_eq_zero_iff.mp (Nat.le_zero.mp hlen)
      · exact .inr (Utf8.getLast?_encode hlast (by decide))
    have hfile := Utf8.encode_append cs t
    rw [hbytes, ← hfile] at hrest
    have hload := ih _ hrest
    rw [records_append hlast, hrecords, List.append_assoc] at hload
    rw [fileOf, List.flatMap_cons, ← fileOf, hbytes, ← List.append_assoc, ← hfile, hload,
      List.filterMap_cons]
    cases call.survivor codec <;> rfl

/-- **The records of a file that was written cleanly** are those written in full, in order. -/
theorem load_of_clean {calls : List (LineWrite α)} (h : CleanFrom codec [] calls) :
    load codec (fileOf codec calls) = some (calls.filterMap (·.survivor codec)) :=
  load_cleanFrom [] h

end Clean

end LineLog
