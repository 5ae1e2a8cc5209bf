import Mathlib.Data.List.Sort
import Mathlib.Tactic
import Std.Data.ExtTreeMap

/-!
Ordered stores whose keys are words, compared letter by letter.  `OrderedStore` is what is assumed
of one, and `OrderedStore.tree` is one such store.

* `scanPrefix_eq`: **a scan from a word on finds all the entries whose keys begin with it**;
* `lastBelow_concat`: below `x ++ [b]` the last entry is the last that begins with `x ++ [a]`, if
  there is one, when `a` is the only letter below `b`.
-/

open Std

namespace KeyRange

/-! ### Sorted lists -/

section Lists

variable {α : Type*} {l : List α} {p : α → Bool}

lemma takeWhile_eq_filter (h : l.Pairwise fun a b => p b = true → p a = true) :
    l.takeWhile p = l.filter p := by
  induction l with
  | nil => rfl
  | cons a l ih =>
    obtain ⟨ha, hl⟩ := List.pairwise_cons.mp h
    rw [List.takeWhile_cons, List.filter_cons, ih hl]
    split_ifs with hp
    · rfl
    · exact (List.filter_eq_nil_iff.mpr fun b hb hpb => hp (ha b hb hpb)).symm

/-- The greatest element of a sorted list is its last. -/
lemma getLast?_of_max {r : α → α → Prop} (h : l.Pairwise r) {m : α} (hm : m ∈ l)
    (hmax : ∀ a ∈ l, ¬ r m a) : l.getLast? = some m := by
  induction l with
  | nil => cases hm
  | cons a l ih =>
    obtain ⟨ha, hl⟩ := List.pairwise_cons.mp h
    rcases List.mem_cons.mp hm with rfl | hm
    · cases l with
      | nil => rfl
      | cons b l => exact absurd (ha b List.mem_cons_self) (hmax b (by simp))
    · rw [List.getLast?_cons, ih hl hm fun b hb => hmax b (List.mem_cons_of_mem a hb)]
      rfl

end Lists

/-! ### Words -/

section Words

variable {α : Type*} {cmp : α → α → Ordering}

lemma compare_append [ReflCmp cmp] (p k k' : List α) :
    List.compareLex cmp (p ++ k) (p ++ k') = List.compareLex cmp k k' := by
  induction p with
  | nil => rfl
  | cons c p ih =>
    have hself : cmp c c = .eq := ReflCmp.compare_self
    rw [List.cons_append, List.cons_append, List.compareLex_cons_cons, hself, ih]
    rfl

/-- A word is not above what begins with it. -/
lemma compare_prefix [ReflCmp cmp] {p k : List α} (h : p <+: k) :
    List.compareLex cmp k p ≠ .lt := by
  obtain ⟨t, rfl⟩ := h
  have happend : List.compareLex cmp (p ++ t) (p ++ []) = _ := compare_append p t []
  rw [List.append_nil] at happend
  rw [happend]
  cases t with
  | nil => simp [List.compareLex_nil_nil]
  | cons c t => simp [List.compareLex_cons_nil]

lemma not_lt_self [ReflCmp cmp] (k : List α) : List.compareLex cmp k k ≠ .lt :=
  compare_prefix List.prefix_rfl

variable [TransCmp cmp] [LawfulEqCmp cmp]

/-- What is not below a word and does not begin with it is above all that does. -/
lemma lt_of_prefix {p k k' : List α} (hk : p <+: k) (hk' : ¬ p <+: k')
    (hle : List.compareLex cmp k' p ≠ .lt) : List.compareLex cmp k k' = .lt := by
  induction p generalizing k k' with
  | nil => exact absurd (List.nil_prefix) hk'
  | cons c p ih =>
    obtain ⟨t, rfl⟩ := hk
    cases k' with
    | nil => exact absurd List.compareLex_nil_cons hle
    | cons d k' =>
      rw [List.compareLex_cons_cons] at hle
      rw [List.cons_append, List.compareLex_cons_cons]
      cases hcd : cmp d c with
      | lt => simp [hcd] at hle
      | eq =>
        obtain rfl := LawfulEqCmp.eq_of_compare hcd
        rw [hcd] at hle
        rw [hcd]
        refine ih ⟨t, rfl⟩ (fun hp => hk' ?_) hle
        exact (List.prefix_cons_inj d).mpr hp
      | gt => rw [OrientedCmp.lt_of_gt hcd]; rfl

/-- Below `x ++ [b]` is what is below `x ++ [a]` and what begins with it, when `a` is the only
letter below `b`. -/
lemma compare_concat {a b : α} (hab : ∀ c, cmp c b = .lt ↔ c = a) (x k : List α) :
    List.compareLex cmp k (x ++ [b]) = .lt
      ↔ List.compareLex cmp k (x ++ [a]) = .lt ∨ x ++ [a] <+: k := by
  have hleast (c : α) : cmp c a ≠ .lt := by
    intro hc
    obtain rfl := (hab c).mp (TransCmp.lt_trans hc ((hab a).mpr rfl))
    have hself : cmp c c = .eq := ReflCmp.compare_self
    rw [hself] at hc
    cases hc
  induction x generalizing k with
  | nil =>
    cases k with
    | nil => exact iff_of_true List.compareLex_nil_cons (.inl List.compareLex_nil_cons)
    | cons c k =>
      have hbelow : ∀ d, List.compareLex cmp (c :: k) [d] = .lt ↔ cmp c d = .lt := by
        intro d
        rw [List.compareLex_cons_cons]
        cases hcd : cmp c d with
        | lt => simp
        | gt => simp
        | eq => cases k <;> simp [List.compareLex_nil_nil, List.compareLex_cons_nil]
      rw [List.nil_append, List.nil_append, hbelow, hbelow, hab, or_iff_right (hleast c),
        List.cons_prefix_cons, and_iff_left List.nil_prefix, eq_comm]
  | cons d x ih =>
    cases k with
    | nil => exact iff_of_true List.compareLex_nil_cons (.inl List.compareLex_nil_cons)
    | cons c k =>
      rw [List.cons_append, List.cons_append, List.compareLex_cons_cons,
        List.compareLex_cons_cons, List.cons_prefix_cons]
      cases hcd : cmp c d with
      | lt => simp
      | gt =>
        have hne : d ≠ c := by
          rintro rfl
          have hself : cmp d d = .eq := ReflCmp.compare_self
          rw [hself] at hcd
          cases hcd
        simp [hne]
      | eq =>
        obtain rfl := LawfulEqCmp.eq_of_compare hcd
        simpa using ih k

end Words

/-! ### Stores -/

/-- An ordered store: what is put is kept, and the iterators give its entries in the order of their
keys. -/
structure OrderedStore (α β : Type) (cmp : α → α → Ordering) where
  State : Type
  empty : State
  get : State → List α → Option β
  put : State → List α → β → State
  entriesFrom : State → List α → List (List α × β)
  lastBelow : State → List α → Option (List α × β)
  get_empty : ∀ key, get empty key = none
  get_put_self : ∀ m key value, get (put m key value) key = some value
  get_put_ne : ∀ m key value key', key ≠ key' → get (put m key value) key' = get m key'
  mem_entriesFrom : ∀ m start e, e ∈ entriesFrom m start
    ↔ get m e.1 = some e.2 ∧ List.compareLex cmp e.1 start ≠ .lt
  entriesFrom_ordered : ∀ m start,
    (entriesFrom m start).Pairwise fun e e' => List.compareLex cmp e.1 e'.1 = .lt
  get_of_lastBelow : ∀ m bound e, lastBelow m bound = some e → get m e.1 = some e.2
  lastBelow_of_max : ∀ m bound e, get m e.1 = some e.2 → List.compareLex cmp e.1 bound = .lt →
    (∀ key value, get m key = some value → List.compareLex cmp key bound = .lt →
      List.compareLex cmp e.1 key ≠ .lt) → lastBelow m bound = some e

namespace OrderedStore

variable {α β : Type} {cmp : α → α → Ordering} [TransCmp cmp] [LawfulEqCmp cmp]

/-- The store of a search tree. -/
def tree (α β : Type) (cmp : α → α → Ordering) [TransCmp cmp] [LawfulEqCmp cmp] :
    OrderedStore α β cmp where
  State := ExtTreeMap (List α) β (List.compareLex cmp)
  empty := ∅
  get m key := m[key]?
  put m key value := m.insert key value
  entriesFrom m start := m.toList.filter fun e => List.compareLex cmp e.1 start ≠ .lt
  lastBelow m bound := (m.toList.filter fun e => List.compareLex cmp e.1 bound = .lt).getLast?
  get_empty _ := ExtTreeMap.getElem?_empty
  get_put_self _ _ _ := ExtTreeMap.getElem?_insert_self
  get_put_ne m key value key' hne := by
    rw [ExtTreeMap.getElem?_insert, if_neg fun heq => hne (LawfulEqCmp.eq_of_compare heq)]
  mem_entriesFrom m start e := by
    rw [List.mem_filter, decide_eq_true_eq, ExtTreeMap.mem_toList_iff_getElem?_eq_some]
  entriesFrom_ordered _ _ := ExtTreeMap.ordered_keys_toList.filter _
  get_of_lastBelow m bound e he :=
    ExtTreeMap.mem_toList_iff_getElem?_eq_some.mp (List.mem_filter.mp (List.mem_of_getLast? he)).1
  lastBelow_of_max m bound e he hbelow hmax := by
    refine getLast?_of_max (ExtTreeMap.ordered_keys_toList.filter _) ?_ fun e' he' => ?_
    · exact List.mem_filter.mpr ⟨ExtTreeMap.mem_toList_iff_getElem?_eq_some.mpr he,
        decide_eq_true hbelow⟩
    · obtain ⟨hmem, hbelow'⟩ := List.mem_filter.mp he'
      exact hmax e'.1 e'.2 (ExtTreeMap.mem_toList_iff_getElem?_eq_some.mp hmem)
        (of_decide_eq_true hbelow')

variable [DecidableEq α] (store : OrderedStore α β cmp) (m : store.State)

/-- The entries from `p` on, while their keys begin with `p`. -/
def scanPrefix (p : List α) : List (List α × β) :=
  (store.entriesFrom m p).takeWhile fun e => p.isPrefixOf e.1

/-- **The scan finds all the entries whose keys begin with the word.** -/
theorem scanPrefix_eq (p : List α) :
    store.scanPrefix m p = (store.entriesFrom m p).filter fun e => p.isPrefixOf e.1 := by
  refine takeWhile_eq_filter ((store.entriesFrom_ordered m p).imp_of_mem ?_)
  intro e e' he _ hlt hp'
  by_contra hp
  have hgt := lt_of_prefix (List.isPrefixOf_iff_prefix.mp hp')
    (fun h => hp (List.isPrefixOf_iff_prefix.mpr h)) ((store.mem_entriesFrom m p e).mp he).2
  rw [OrientedCmp.gt_of_lt hgt] at hlt
  cases hlt

lemma mem_scanPrefix {p : List α} {e : List α × β} :
    e ∈ store.scanPrefix m p ↔ store.get m e.1 = some e.2 ∧ p <+: e.1 := by
  rw [scanPrefix_eq, List.mem_filter, store.mem_entriesFrom, List.isPrefixOf_iff_prefix]
  exact ⟨fun h => ⟨h.1.1, h.2⟩, fun h => ⟨⟨h.1, compare_prefix h.2⟩, h.2⟩⟩

omit [TransCmp cmp] [LawfulEqCmp cmp] in
lemma scanPrefix_ordered (p : List α) :
    (store.scanPrefix m p).Pairwise fun e e' => List.compareLex cmp e.1 e'.1 = .lt :=
  (store.entriesFrom_ordered m p).sublist (List.takeWhile_prefix _).sublist

omit [DecidableEq α] in
/-- The last entry below the bound is the last whose key begins with the word. -/
lemma lastBelow_concat {a b : α} (hab : ∀ c, cmp c b = .lt ↔ c = a) {x : List α}
    {e : List α × β} (he : store.get m e.1 = some e.2) (hp : x ++ [a] <+: e.1)
    (hmax : ∀ key value, store.get m key = some value → x ++ [a] <+: key →
      List.compareLex cmp e.1 key ≠ .lt) : store.lastBelow m (x ++ [b]) = some e := by
  refine store.lastBelow_of_max m _ e he ((compare_concat hab x e.1).mpr (.inr hp)) ?_
  intro key value hget hbelow hlt
  rcases (compare_concat hab x key).mp hbelow with hbelow | hp'
  · exact compare_prefix hp (TransCmp.lt_trans hlt hbelow)
  · exact hmax key value hget hp' hlt

end OrderedStore

end KeyRange
