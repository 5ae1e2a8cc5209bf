import MacpRuntime.Receipt.Jcs

/-!
Canonical JSON as a text that others read: **every value without floats has a canonical text, sorted
at every depth, which every correct parser reads back to that value up to the order of members, and
no other value has it** (`canonical_json`).  There is a correct parser (`parse_correct`).
-/

namespace MacpRuntime.Jcs

open Json

/-! ### Values up to the order of their members -/

/-- No object holds a key twice. -/
def Distinct : Json → Prop := Everywhere (fun _ => True) fun ms => (ms.map Prod.fst).Nodup

mutual

/-- Equality of values: two objects are equal if they have as many members and every member of
the first is one of the second. -/
def Same : Json → Json → Prop
  | .array vs, .array ws => SameItems vs ws
  | .object ms, .object ns => ms.length = ns.length ∧ SameMembers ms ns
  | .null, .null => True
  | .bool a, .bool b => a = b
  | .number m, .number n => m = n
  | .string s, .string t => s = t
  | _, _ => False

/-- Equality of items, one by one. -/
def SameItems : List Json → List Json → Prop
  | [], [] => True
  | v :: vs, w :: ws => Same v w ∧ SameItems vs ws
  | _, _ => False

/-- Every member of the first is one of the second. -/
def SameMembers : List (String × Json) → List (String × Json) → Prop
  | [], _ => True
  | (k, v) :: ms, ns => (∃ w, ns.lookup k = some w ∧ Same v w) ∧ SameMembers ms ns

end

variable (ms : List (String × Json))

lemma sameMembers_iff (ns : List (String × Json)) :
    SameMembers ms ns ↔ ∀ m ∈ ms, ∃ w, ns.lookup m.1 = some w ∧ Same m.2 w := by
  induction ms with
  | nil => exact ⟨fun _ _ h => absurd h List.not_mem_nil, fun _ => trivial⟩
  | cons m ms ih => rw [List.forall_mem_cons, ← ih]; rfl

lemma mem_sortedMembers {ms : List (String × Json)} {k : String} {u : Json} :
    (k, u) ∈ sortedMembers ms ↔ ∃ v, (k, v) ∈ ms ∧ sorted v = u := by
  induction ms with
  | nil => simp [sortedMembers]
  | cons m ms ih =>
    obtain ⟨l, w⟩ := m
    rw [sortedMembers, List.mem_cons, ih, Prod.mk.injEq]
    constructor
    · rintro (⟨rfl, rfl⟩ | ⟨v, hv, rfl⟩)
      · exact ⟨w, List.mem_cons_self, rfl⟩
      · exact ⟨v, List.mem_cons_of_mem _ hv, rfl⟩
    · rintro ⟨v, hv, rfl⟩
      rcases List.mem_cons.mp hv with heq | hv
      · cases heq
        exact .inl ⟨rfl, rfl⟩
      · exact .inr ⟨v, hv, rfl⟩

lemma length_sortedMembers : (sortedMembers ms).length = ms.length := by
  have hfst := congrArg List.length (map_fst_sortedMembers ms)
  rwa [List.length_map, List.length_map] at hfst

/-- The member of a key that is held once. -/
lemma lookup_of_mem {ms : List (String × Json)} (hnodup : (ms.map Prod.fst).Nodup) {k : String}
    {v : Json} (h : (k, v) ∈ ms) : ms.lookup k = some v := by
  obtain ⟨before, after, rfl⟩ := List.append_of_mem h
  refine List.lookup_eq_some_iff.mpr ⟨before, after, rfl, fun p hp => bne_iff_ne.mpr fun heq => ?_⟩
  rw [List.map_append, List.map_cons, List.nodup_append] at hnodup
  exact hnodup.2.2 p.1 (List.mem_map_of_mem hp) k List.mem_cons_self heq.symm

mutual

/-- What is the sorted form of a value, up to order, is that value. -/
lemma same_of_sorted : ∀ (v w : Json), Same (sorted v) w → Same v w
  | .null, _, h => h
  | .bool _, _, h => h
  | .number _, _, h => h
  | .string _, _, h => h
  | .array items, w, h => by
    cases w with
    | array items' => exact sameItems_of_sorted items items' h
    | _ => exact False.elim h
  | .object members, w, h => by
    cases w with
    | object members' =>
      obtain ⟨hlength, hmembers⟩ := h
      have hmem := (sameMembers_iff _ _).mp hmembers
      refine ⟨?_, sameMembers_of_sorted members members' fun m hm => hmem m ?_⟩
      · rw [← hlength, List.length_insertionSort, length_sortedMembers]
      · exact (List.mem_insertionSort KeyLe).mpr hm
    | _ => exact False.elim h

lemma sameItems_of_sorted : ∀ (vs ws : List Json), SameItems (sortedItems vs) ws → SameItems vs ws
  | [], _, h => h
  | v :: vs, ws, h => by
    cases ws with
    | nil => exact False.elim h
    | cons w ws => exact ⟨same_of_sorted v w h.1, sameItems_of_sorted vs ws h.2⟩

lemma sameMembers_of_sorted : ∀ (ms ns : List (String × Json)),
    (∀ m ∈ sortedMembers ms, ∃ w, ns.lookup m.1 = some w ∧ Same m.2 w) → SameMembers ms ns
  | [], _, _ => trivial
  | (k, v) :: ms, ns, h => by
    obtain ⟨w, hw, hsame⟩ := h (k, sorted v) List.mem_cons_self
    exact ⟨⟨w, hw, same_of_sorted v w hsame⟩,
      sameMembers_of_sorted ms ns fun m hm => h m (List.mem_cons_of_mem _ hm)⟩

end

mutual

/-- Two values with the same sorted form are the same. -/
lemma same_of_sorted_eq : ∀ (v w : Json), Distinct w → sorted v = sorted w → Same v w
  | .null, w, _, h => by cases w <;> trivial
  | .bool _, w, _, h => by cases w <;> first | exact Json.bool.inj h | exact Json.noConfusion h
  | .number _, w, _, h => by cases w <;> first | exact Json.number.inj h | exact Json.noConfusion h
  | .string _, w, _, h => by cases w <;> first | exact Json.string.inj h | exact Json.noConfusion h
  | .array items, w, hw, h => by
    cases w with
    | array items' => exact sameItems_of_sorted_eq items items' hw (Json.array.inj h)
    | _ => exact Json.noConfusion h
  | .object members, w, hw, h => by
    cases w with
    | object members' =>
      -- both lists of members are permuted into the same one
      have hperm := (List.perm_insertionSort KeyLe (sortedMembers members)).symm.trans
        (Json.object.inj h ▸ List.perm_insertionSort KeyLe (sortedMembers members'))
      refine ⟨?_, sameMembers_of_sorted_eq members members' hw.1
        (everywhereMembers_iff.mp hw.2) fun m hm => hperm.subset hm⟩
      rw [← length_sortedMembers members, hperm.length_eq, length_sortedMembers]
    | _ => exact Json.noConfusion h

lemma sameItems_of_sorted_eq : ∀ (vs ws : List Json),
    EverywhereItems (fun _ => True) (fun ms => (ms.map Prod.fst).Nodup) ws →
    sortedItems vs = sortedItems ws → SameItems vs ws
  | [], ws, _, h => by
    cases ws with
    | nil => trivial
    | cons w ws => cases h
  | v :: vs, ws, hws, h => by
    cases ws with
    | nil => cases h
    | cons w ws =>
      rw [sortedItems, sortedItems, List.cons.injEq] at h
      exact ⟨same_of_sorted_eq v w hws.1 h.1, sameItems_of_sorted_eq vs ws hws.2 h.2⟩

lemma sameMembers_of_sorted_eq : ∀ (ms ns : List (String × Json)), (ns.map Prod.fst).Nodup →
    (∀ n ∈ ns, Distinct n.2) → (∀ m ∈ sortedMembers ms, m ∈ sortedMembers ns) → SameMembers ms ns
  | [], _, _, _, _ => trivial
  | (k, v) :: ms, ns, hnodup, hns, h => by
    obtain ⟨w, hw, hsorted⟩ := mem_sortedMembers.mp (h (k, sorted v) List.mem_cons_self)
    exact ⟨⟨w, lookup_of_mem hnodup hw, same_of_sorted_eq v w (hns _ hw) hsorted.symm⟩,
      sameMembers_of_sorted_eq ms ns hnodup hns fun m hm => h m (List.mem_cons_of_mem _ hm)⟩

end

lemma distinct_sorted (v : Json) (h : Distinct v) : Distinct (sorted v) := by
  refine everywhere_sorted (fun ms hms => ?_) v h
  have hperm := (List.perm_insertionSort KeyLe (sortedMembers ms)).map Prod.fst
  rw [hperm.nodup_iff, map_fst_sortedMembers]
  exact hms

/-! ### Order at every depth -/

/-- The members of every object are sorted by their code units. -/
def InOrder : Json → Prop := Everywhere (fun _ => True) (List.Pairwise KeyLe)

instance {α : Type} : Std.Total (@KeyLe α) := ⟨fun a b => le_total (utf16 a.1) (utf16 b.1)⟩

instance {α : Type} : IsTrans (String × α) KeyLe := ⟨fun _ _ _ => le_trans⟩

lemma inOrder_sorted {v : Json} (h : v.Integral) : InOrder (sorted v) :=
  (everywhere_sorted (fun _ _ => List.pairwise_insertionSort KeyLe _) v h).mono
    (fun _ _ => trivial) fun _ => id

/-! ### The canonical text -/

/-- A parser of JSON texts: it reads the text of a value without floats to that value. -/
def Correct (parser : String → Option Json) : Prop :=
  ∀ (text : String) (v : Json), Denotes text.toList v → v.Integral → Distinct v →
    ∃ w, parser text = some w ∧ Same v w

/-- The grammar's reader is correct. -/
theorem parse_correct : Correct fun text => parse text.toList := fun _ v hdenotes _ hdistinct =>
  ⟨v, parse_of_denotes hdenotes, same_of_sorted_eq v v hdistinct rfl⟩

/-- **Canonical JSON.**  A value without floats, its members held in any order, has canonical
bytes; they are a JSON text of that value in which every object is sorted, every correct parser
reads it back, and values with the same bytes are equal: as they are held, if objects are held as
ordered maps. -/
theorem canonical_json (numbers : Numbers) :
    (∀ v : Json, v.Integral → Distinct v → ∃ (text : String) (u : Json),
        canonicalize numbers v = some (Utf8.encode text)
          ∧ Denotes text.toList u ∧ InOrder u ∧ Same v u
          ∧ ∀ parser, Correct parser → ∃ w, parser text = some w ∧ Same v w)
      ∧ (∀ v w : Json, v.Integral → w.Integral → Distinct v → Distinct w →
        canonicalize numbers v = canonicalize numbers w → Same v w)
      ∧ ∀ v w : Json, v.Integral → w.Integral → Keyed v → Keyed w →
        canonicalize numbers v = canonicalize numbers w → v = w := by
  refine ⟨fun v hv hdistinct => ?_, fun v w hv hw _ hdistinct h => ?_,
    fun v w hv hw hvk hwk h => ?_⟩
  · have hintegral := integral_sorted v hv
    have hkeys := distinct_sorted v hdistinct
    have hdenotes : Denotes (String.ofList (write (sorted v))).toList (sorted v) := by
      rw [String.toList_ofList]
      exact denotes_write hintegral.literal
    refine ⟨String.ofList (write (sorted v)), sorted v, canonicalize_eq numbers hv, hdenotes,
      inOrder_sorted hv, same_of_sorted v _ (same_of_sorted_eq _ _ hkeys rfl), ?_⟩
    intro parser hparser
    obtain ⟨w, hw, hsame⟩ := hparser _ _ hdenotes hintegral hkeys
    exact ⟨w, hw, same_of_sorted v w hsame⟩
  · exact same_of_sorted_eq v w hdistinct (sorted_eq_of_canonicalize numbers hv hw h)
  · exact canonicalize_injective numbers hv hw hvk hwk h

end MacpRuntime.Jcs
