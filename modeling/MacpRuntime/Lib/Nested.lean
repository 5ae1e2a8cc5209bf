import Mathlib.Data.List.Sort
import Mathlib.Tactic
import Std.Data.ExtTreeMap

/-!
Tables: maps of maps, and the list of their cells in the order of their keys.  Tables that agree on
the cells of interest give the same list of them (`filter_entries_eq`).
-/

open Std

/-- A map of maps. -/
abbrev Table (α β : Type) (cmp : α → α → Ordering) : Type := ExtTreeMap α (ExtTreeMap α β cmp) cmp

namespace Table

variable {α β : Type} {cmp : α → α → Ordering} [TransCmp cmp] [LawfulEqCmp cmp]

/-- A cell of a table. -/
def get (t : Table α β cmp) (i j : α) : Option β := t[i]?.bind (·[j]?)

/-- Set a cell. -/
def put (t : Table α β cmp) (i j : α) (b : β) : Table α β cmp :=
  t.insert i ((t[i]?.getD ∅).insert j b)

/-- All cells, row by row. -/
def entries (t : Table α β cmp) : List ((α × α) × β) :=
  t.toList.flatMap fun row => row.2.toList.map fun e => ((row.1, e.1), e.2)

lemma mem_entries {t : Table α β cmp} {i j : α} {b : β} :
    ((i, j), b) ∈ entries t ↔ get t i j = some b := by
  simp only [entries, get, List.mem_flatMap, List.mem_map, Prod.exists, Prod.mk.injEq,
    ExtTreeMap.mem_toList_iff_getElem?_eq_some, Option.bind_eq_some_iff]
  constructor
  · rintro ⟨i', row, hrow, j', b', hb, ⟨rfl, rfl⟩, rfl⟩
    exact ⟨row, hrow, hb⟩
  · rintro ⟨row, hrow, hb⟩
    exact ⟨i, row, hrow, j, b, hb, ⟨rfl, rfl⟩, rfl⟩

/-! ### Order -/

/-- The order of the cells: by row, and by column in a row. -/
def Before (cmp : α → α → Ordering) (x y : (α × α) × β) : Prop :=
  cmp x.1.1 y.1.1 = .lt ∨ x.1.1 = y.1.1 ∧ cmp x.1.2 y.1.2 = .lt

omit [LawfulEqCmp cmp] in
lemma ne_of_cmp_lt {a b : α} (h : cmp a b = .lt) : a ≠ b := by
  rintro rfl
  have heq : cmp a a = .eq := ReflCmp.compare_self
  rw [heq] at h
  cases h

omit [LawfulEqCmp cmp] in
lemma Before.ne {x y : (α × α) × β} (h : Before cmp x y) : x.1 ≠ y.1 := by
  intro heq
  rcases h with h | ⟨-, h⟩
  · exact ne_of_cmp_lt h (congrArg Prod.fst heq)
  · exact ne_of_cmp_lt h (congrArg Prod.snd heq)

instance : Std.Irrefl (Before (β := β) cmp) := ⟨fun _ h => h.ne rfl⟩

instance : Std.Antisymm (Before (β := β) cmp) := ⟨by
  intro x y hxy hyx
  rcases hxy with h | ⟨hrow, h⟩ <;> rcases hyx with h' | ⟨hrow', h'⟩
  · rw [OrientedCmp.gt_of_lt h] at h'
    cases h'
  · exact absurd hrow'.symm (ne_of_cmp_lt h)
  · exact absurd hrow.symm (ne_of_cmp_lt h')
  · rw [OrientedCmp.gt_of_lt h] at h'
    cases h'⟩

omit [LawfulEqCmp cmp] in
lemma entries_pairwise (t : Table α β cmp) : (entries t).Pairwise (Before cmp) := by
  unfold entries
  rw [List.pairwise_flatMap]
  constructor
  · rintro ⟨i, row⟩ -
    rw [List.pairwise_map]
    exact ExtTreeMap.ordered_keys_toList.imp fun h => .inr ⟨rfl, h⟩
  · refine ExtTreeMap.ordered_keys_toList.imp fun {r r'} h x hx y hy => .inl ?_
    obtain ⟨e, -, rfl⟩ := List.mem_map.mp hx
    obtain ⟨e', -, rfl⟩ := List.mem_map.mp hy
    exact h

omit [LawfulEqCmp cmp] in
lemma entries_nodup (t : Table α β cmp) : (entries t).Nodup :=
  (entries_pairwise t).imp fun h heq => h.ne (congrArg Prod.fst heq)

/-- Tables that agree on some cells list them alike. -/
lemma filter_entries_eq {t t' : Table α β cmp} {p : (α × α) × β → Bool}
    (h : ∀ i j b, p ((i, j), b) = true → (get t i j = some b ↔ get t' i j = some b)) :
    (entries t).filter p = (entries t').filter p := by
  refine ((entries_pairwise t).filter p).eq_of_mem_iff ((entries_pairwise t').filter p) ?_
  rintro ⟨⟨i, j⟩, b⟩
  simp only [List.mem_filter, mem_entries]
  exact ⟨fun ⟨hget, hp⟩ => ⟨(h i j b hp).mp hget, hp⟩,
    fun ⟨hget, hp⟩ => ⟨(h i j b hp).mpr hget, hp⟩⟩

/-! ### One cell -/

/-- The other cells. -/
def others [DecidableEq α] (t : Table α β cmp) (i j : α) : List ((α × α) × β) :=
  (entries t).filter fun e => e.1 ≠ (i, j)

section

variable [DecidableEq α]

/-- A cell that is set, and the others. -/
lemma entries_perm_of_get {t : Table α β cmp} {i j : α} {b : β} (h : get t i j = some b) :
    (entries t).Perm (((i, j), b) :: others t i j) := by
  refine (List.perm_ext_iff_of_nodup (entries_nodup t) ?_).mpr ?_
  · refine List.nodup_cons.mpr ⟨?_, (entries_nodup t).filter _⟩
    simp [others]
  · rintro ⟨⟨i', j'⟩, b'⟩
    by_cases hkey : (i', j') = (i, j)
    · cases hkey
      simp [others, mem_entries, h, eq_comm]
    · simp [others, mem_entries, hkey]

/-- A cell that is not set leaves the others alone. -/
lemma entries_of_get_none {t : Table α β cmp} {i j : α} (h : get t i j = none) :
    entries t = others t i j := by
  refine (List.filter_eq_self.mpr ?_).symm
  rintro ⟨⟨i', j'⟩, b⟩ hmem
  rw [mem_entries] at hmem
  refine decide_eq_true fun hkey => ?_
  cases hkey
  rw [h] at hmem
  cases hmem

variable (t : Table α β cmp)

lemma get_put (i j i' j' : α) (b : β) :
    get (put t i j b) i' j' = if (i', j') = (i, j) then some b else get t i' j' := by
  unfold get put
  rw [ExtTreeMap.getElem?_insert]
  by_cases hi : i = i'
  · subst hi
    rw [if_pos ReflCmp.compare_self, Option.bind_some, ExtTreeMap.getElem?_insert]
    by_cases hj : j = j'
    · subst hj
      rw [if_pos ReflCmp.compare_self, if_pos rfl]
    · rw [if_neg fun h => hj (LawfulEqCmp.eq_of_compare h), if_neg (by simp [Ne.symm hj])]
      cases t[i]? <;> simp
  · rw [if_neg fun h => hi (LawfulEqCmp.eq_of_compare h), if_neg (by simp [Ne.symm hi])]

/-- Setting a cell leaves the others alone. -/
lemma others_put (i j : α) (b : β) : others (put t i j b) i j = others t i j := by
  refine filter_entries_eq fun i' j' b' hkey => ?_
  rw [get_put, if_neg (of_decide_eq_true hkey)]

lemma entries_put_perm (i j : α) (b : β) :
    (entries (put t i j b)).Perm (((i, j), b) :: others t i j) := by
  rw [← others_put t i j b]
  exact entries_perm_of_get (by rw [get_put, if_pos rfl])

end

end Table
