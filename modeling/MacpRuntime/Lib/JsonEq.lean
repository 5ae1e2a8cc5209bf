import MacpRuntime.Lib.Serde
import MacpRuntime.Lib.SignedZero

/-!
Equality of JSON values as `serde_json` compares them: numbers within their kind, and floats as
doubles, so that the two zeros are equal.  `FloatText.Respects` is a reader that gives the same for
equal values, as far as a view of its results tells; the scalars of `Serde` are read the same as
such, doubles up to the sign of zero.
-/

namespace FloatText

open Std
open Serde

variable (t : FloatText)

/-! ### Equality -/

/-- The equality of numbers. -/
def sameNumber : JsonNumber → JsonNumber → Bool
  | .posInt m, .posInt n => m == n
  | .negInt m, .negInt n => m == n
  | .float a, .float b =>
    match t.read a, t.read b with
    | some x, some y => x == y
    | _, _ => a == b
  | _, _ => false

mutual

/-- `Value::eq`. -/
def same : Json → Json → Bool
  | .null, .null => true
  | .bool a, .bool b => a == b
  | .number m, .number n => t.sameNumber m n
  | .string a, .string b => a == b
  | .array xs, .array ys => sameItems xs ys
  | .object ms, .object ns => sameMembers ms ns
  | _, _ => false

/-- The equality of arrays. -/
def sameItems : List Json → List Json → Bool
  | [], [] => true
  | v :: vs, w :: ws => same v w && sameItems vs ws
  | _, _ => false

/-- Every member has an equal one in the other object. -/
def sameMembers : List (String × Json) → List (String × Json) → Bool
  | [], [] => true
  | (k, v) :: ms, (l, w) :: ns => k == l && same v w && sameMembers ms ns
  | _, _ => false

end

variable {t}

/-- Equal lists have equal values at each place. -/
lemma forall₂_of_sameItems {vs ws : List Json} (h : t.sameItems vs ws = true) :
    List.Forall₂ (fun v w => t.same v w = true) vs ws := by
  induction vs generalizing ws with
  | nil =>
    cases ws with
    | nil => exact .nil
    | cons w ws => cases h
  | cons v vs ih =>
    cases ws with
    | nil => cases h
    | cons w ws =>
      rw [sameItems, Bool.and_eq_true] at h
      exact .cons h.1 (ih h.2)

/-- The members of equal objects: the same keys, with equal values. -/
abbrev SameMembers (t : FloatText) : List (String × Json) → List (String × Json) → Prop :=
  List.Forall₂ fun m n => m.1 = n.1 ∧ t.same m.2 n.2 = true

variable {ms ns : List (String × Json)}

lemma forall₂_of_sameMembers (h : t.sameMembers ms ns = true) : t.SameMembers ms ns := by
  induction ms generalizing ns with
  | nil =>
    cases ns with
    | nil => exact .nil
    | cons n ns => cases h
  | cons m ms ih =>
    cases ns with
    | nil => cases h
    | cons n ns =>
      rw [sameMembers, Bool.and_eq_true, Bool.and_eq_true, beq_iff_eq] at h
      exact .cons h.1 (ih h.2)

/-- Equal objects have equal members under each key. -/
lemma SameMembers.lookup (h : t.SameMembers ms ns) (key : String) :
    (ms.lookup key = none ∧ ns.lookup key = none) ∨
      ∃ v w, ms.lookup key = some v ∧ ns.lookup key = some w ∧ t.same v w = true := by
  induction h with
  | nil => exact .inl ⟨rfl, rfl⟩
  | @cons m n ms ns hm _ ih =>
    obtain ⟨k, v⟩ := m
    obtain ⟨l, w⟩ := n
    obtain ⟨rfl, hv⟩ : k = l ∧ t.same v w = true := hm
    rw [List.lookup_cons, List.lookup_cons]
    cases key == k with
    | true => exact .inr ⟨v, w, rfl, rfl, hv⟩
    | false => exact ih

/-- Equal values are the same value, or two floats, two arrays or two objects. -/
lemma same_cases {v w : Json} (h : t.same v w = true) :
    v = w ∨ (∃ a b, v = .number (.float a) ∧ w = .number (.float b)
        ∧ t.sameNumber (.float a) (.float b) = true)
      ∨ (∃ vs ws, v = .array vs ∧ w = .array ws
        ∧ List.Forall₂ (fun v w => t.same v w = true) vs ws)
      ∨ ∃ ms ns, v = .object ms ∧ w = .object ns ∧ t.SameMembers ms ns := by
  match v, w, h with
  | .null, .null, _ => exact .inl rfl
  | .bool a, .bool b, h => exact .inl (congrArg Json.bool (beq_iff_eq.mp h))
  | .string a, .string b, h => exact .inl (congrArg Json.string (beq_iff_eq.mp h))
  | .number (.posInt m), .number (.posInt n), h =>
    obtain rfl : m = n := beq_iff_eq.mp h
    exact .inl rfl
  | .number (.negInt m), .number (.negInt n), h =>
    obtain rfl : m = n := beq_iff_eq.mp h
    exact .inl rfl
  | .number (.float a), .number (.float b), h => exact .inr (.inl ⟨a, b, rfl, rfl, h⟩)
  | .array vs, .array ws, h => exact .inr (.inr (.inl ⟨vs, ws, rfl, rfl, forall₂_of_sameItems h⟩))
  | .object ms, .object ns, h =>
    exact .inr (.inr (.inr ⟨ms, ns, rfl, rfl, forall₂_of_sameMembers h⟩))

/-! ### Readers -/

/-- The reader gives the same for equal values, as far as the view tells. -/
def Respects {α β : Type} (t : FloatText) (read : Json → Option α) (view : α → β) : Prop :=
  ∀ v w, t.same v w = true → (read v).map view = (read w).map view

/-- Readings that a view does not tell apart. -/
lemma cases_of_map_eq {α β : Type} {x y : Option α} {view : α → β} (h : x.map view = y.map view) :
    (x = none ∧ y = none) ∨ ∃ a b, x = some a ∧ y = some b ∧ view a = view b := by
  cases x <;> cases y <;> simp_all

/-- Such readings, one after the other. -/
lemma map_bind_congr {α β γ δ : Type} {x y : Option α} {view : α → β} {f g : α → Option γ}
    {view' : γ → δ} (h : x.map view = y.map view)
    (hf : ∀ a b, view a = view b → (f a).map view' = (g b).map view') :
    (x.bind f).map view' = (y.bind g).map view' := by
  obtain ⟨rfl, rfl⟩ | ⟨a, b, rfl, rfl, hab⟩ := cases_of_map_eq h
  · rfl
  · exact hf a b hab

section Fields

variable {α β : Type} {read : Json → Option α} {view : α → β}

lemma map_fieldOr_congr (h : t.Respects read view) (default : α) (key : String)
    {ms ns : List (String × Json)} (hms : t.SameMembers ms ns) :
    (fieldOr read default key ms).map view = (fieldOr read default key ns).map view := by
  unfold fieldOr
  rcases hms.lookup key with ⟨hm, hn⟩ | ⟨v, w, hm, hn, hsame⟩
  · rw [hm, hn]
  · rw [hm, hn]
    exact h v w hsame

lemma sameMembers_zip (fields : List String) {vs ws : List Json}
    (h : List.Forall₂ (fun v w => t.same v w = true) vs ws) :
    t.SameMembers (fields.zip vs) (fields.zip ws) := by
  induction h generalizing fields with
  | nil => rw [List.zip_nil_right]; exact .nil
  | cons hv _ ih =>
    cases fields with
    | nil => exact .nil
    | cons field fields => exact .cons ⟨rfl, hv⟩ (ih fields)

/-- A struct respects equality when what it reads of its members does. -/
lemma respects_struct {fields : List String} {read : List (String × Json) → Option α}
    (h : ∀ ms ns, t.SameMembers ms ns → (read ms).map view = (read ns).map view) :
    t.Respects (fun v => (structMembers fields v).bind read) view := by
  intro v w hsame
  rcases same_cases hsame with rfl | ⟨a, b, rfl, rfl, _⟩ | ⟨vs, ws, rfl, rfl, hitems⟩ |
    ⟨ms, ns, rfl, rfl, hms⟩
  · rfl
  · rfl
  · simp only [structMembers, hitems.length_eq]
    split_ifs
    · exact h _ _ (sameMembers_zip fields hitems)
    · rfl
  · exact h ms ns hms

end Fields

/-! ### Scalars and containers -/

/-- A reader that reads no float, no array and no object. -/
lemma respects_scalar {α : Type} {read : Json → Option α}
    (hfloat : ∀ a, read (.number (.float a)) = none) (harray : ∀ vs, read (.array vs) = none)
    (hobject : ∀ ms, read (.object ms) = none) : t.Respects read id := by
  intro v w hsame
  rcases same_cases hsame with rfl | ⟨a, b, rfl, rfl, _⟩ | ⟨vs, ws, rfl, rfl, _⟩ |
    ⟨ms, ns, rfl, rfl, _⟩
  · rfl
  · rw [hfloat, hfloat]
  · rw [harray, harray]
  · rw [hobject, hobject]

lemma respects_text : t.Respects text id :=
  respects_scalar (fun _ => rfl) (fun _ => rfl) fun _ => rfl

lemma respects_flag : t.Respects flag id :=
  respects_scalar (fun _ => rfl) (fun _ => rfl) fun _ => rfl

lemma respects_natural (bound : ℕ) : t.Respects (natural bound) id :=
  respects_scalar (fun _ => rfl) (fun _ => rfl) fun _ => rfl

lemma text_congr {v w : Json} (h : t.same v w = true) : text v = text w := by
  have htext := respects_text v w h
  rwa [Option.map_id, id, id] at htext

lemma respects_texts : t.Respects texts id := by
  intro v w hsame
  rcases same_cases hsame with rfl | ⟨a, b, rfl, rfl, _⟩ | ⟨vs, ws, rfl, rfl, hitems⟩ |
    ⟨ms, ns, rfl, rfl, _⟩
  · rfl
  · rfl
  · have hmapM : vs.mapM text = ws.mapM text := by
      clear hsame
      induction hitems with
      | nil => rfl
      | cons hv _ ih => rw [List.mapM_cons, List.mapM_cons, text_congr hv, ih]
    exact congrArg (Option.map id) hmapM
  · rfl

lemma respects_unitVariant {α : Type} (variant : String → Option α) :
    t.Respects (unitVariant variant) id := by
  intro v w hsame
  rcases same_cases hsame with rfl | ⟨a, b, rfl, rfl, _⟩ | ⟨vs, ws, rfl, rfl, _⟩ |
    ⟨ms, ns, rfl, rfl, hms⟩
  · rfl
  · rfl
  · rfl
  · -- the only object that is read has one member, which is `null`
    cases hms with
    | nil => rfl
    | @cons m n ms ns hm hrest =>
      obtain ⟨k, v⟩ := m
      obtain ⟨l, w⟩ := n
      obtain ⟨rfl, hv⟩ : k = l ∧ t.same v w = true := hm
      cases hrest with
      | nil => cases v <;> cases w <;> first | rfl | cases hv
      | cons _ _ => cases v <;> cases w <;> rfl

/-- Doubles are read the same up to the sign of zero. -/
lemma respects_double : t.Respects t.fromJson Double.unsign := by
  intro v w hsame
  rcases same_cases hsame with rfl | ⟨a, b, rfl, rfl, hnumber⟩ | ⟨vs, ws, rfl, rfl, _⟩ |
    ⟨ms, ns, rfl, rfl, _⟩
  · rfl
  · simp only [fromJson, sameNumber] at hnumber ⊢
    split at hnumber
    · rename_i x y hx hy
      rw [hx, hy, Option.map_some, Option.map_some, Double.unsign_eq_of_beq hnumber]
    · rw [beq_iff_eq.mp hnumber]
  · rfl
  · rfl

/-! ### Maps of doubles -/

/-- A map of doubles without the signs of its zeros. -/
def unsignMap (map : ExtTreeMap String Float) : ExtTreeMap String Float :=
  map.map fun _ x => Double.unsign x

lemma unsignMap_insert (map : ExtTreeMap String Float) (key : String) (x : Float) :
    unsignMap (map.insert key x) = (unsignMap map).insert key (Double.unsign x) := by
  refine ExtTreeMap.ext_getElem? fun k => ?_
  rw [unsignMap, unsignMap, ExtTreeMap.getElem?_map, ExtTreeMap.getElem?_insert,
    ExtTreeMap.getElem?_insert, ExtTreeMap.getElem?_map]
  split_ifs <;> rfl

lemma map_insert_unsignMap (x : Option Float) (map : ExtTreeMap String Float) (key : String) :
    (x.map fun x => map.insert key x).map unsignMap
      = (x.map Double.unsign).map fun x => (unsignMap map).insert key x := by
  cases x with
  | none => rfl
  | some x => exact congrArg some (unsignMap_insert map key x)

lemma foldlM_doubles_congr (h : t.SameMembers ms ns) {map map' : ExtTreeMap String Float}
    (hmap : unsignMap map = unsignMap map') :
    (ms.foldlM (fun map entry => (t.fromJson entry.2).map fun x => map.insert entry.1 x) map).map
        unsignMap
      = (ns.foldlM (fun map entry => (t.fromJson entry.2).map fun x => map.insert entry.1 x)
        map').map unsignMap := by
  induction h generalizing map map' with
  | nil => exact congrArg some hmap
  | @cons m n ms ns hm _ ih =>
    rw [List.foldlM_cons, List.foldlM_cons, ← hm.1]
    refine map_bind_congr ?_ fun a b hab => ih hab
    rw [map_insert_unsignMap, map_insert_unsignMap, hmap, respects_double m.2 n.2 hm.2]

lemma respects_doubles : t.Respects (doubles t) unsignMap := by
  intro v w hsame
  rcases same_cases hsame with rfl | ⟨a, b, rfl, rfl, _⟩ | ⟨vs, ws, rfl, rfl, _⟩ |
    ⟨ms, ns, rfl, rfl, hms⟩
  · rfl
  · rfl
  · rfl
  · exact foldlM_doubles_congr hms rfl

end FloatText
