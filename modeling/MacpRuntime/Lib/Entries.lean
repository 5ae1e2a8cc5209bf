import Mathlib.Data.List.Sort
import Mathlib.Tactic
import Std.Data.ExtTreeMap

/-!
The entries of a map, as a list, when one of them is set: which they are up to their order, and how
many of them pass a test.
-/

open Std

namespace Entries

variable {α β : Type} {cmp : α → α → Ordering} [TransCmp cmp] [LawfulEqCmp cmp]

omit [LawfulEqCmp cmp] in
lemma toList_nodup (m : ExtTreeMap α β cmp) : m.toList.Nodup := by
  refine ExtTreeMap.distinct_keys_toList.imp ?_
  rintro a b hne rfl
  exact hne ReflCmp.compare_self

variable [DecidableEq α]

/-- The entries of the other keys. -/
def others (m : ExtTreeMap α β cmp) (k : α) : List (α × β) := m.toList.filter fun e => e.1 ≠ k

variable {k : α} {m : ExtTreeMap α β cmp}

/-- The entry of a key, and the others. -/
lemma toList_perm {b : β} (h : m[k]? = some b) : m.toList.Perm ((k, b) :: others m k) := by
  refine (List.perm_ext_iff_of_nodup (toList_nodup m) ?_).mpr ?_
  · refine List.nodup_cons.mpr ⟨?_, (toList_nodup m).filter _⟩
    simp [others]
  · rintro ⟨k', b'⟩
    by_cases hkey : k' = k
    · subst hkey
      simp [others, ExtTreeMap.mem_toList_iff_getElem?_eq_some, h, eq_comm]
    · simp [others, ExtTreeMap.mem_toList_iff_getElem?_eq_some, hkey]

/-- A key without an entry leaves the others alone. -/
lemma others_eq_toList (h : m[k]? = none) : others m k = m.toList := by
  refine List.filter_eq_self.mpr ?_
  rintro ⟨k', b⟩ hmem
  rw [ExtTreeMap.mem_toList_iff_getElem?_eq_some] at hmem
  refine decide_eq_true fun hkey => ?_
  cases hkey
  rw [h] at hmem
  cases hmem

/-- Setting an entry leaves the others alone. -/
lemma others_insert_perm (m : ExtTreeMap α β cmp) (k : α) (b : β) :
    (others (m.insert k b) k).Perm (others m k) := by
  refine (List.perm_ext_iff_of_nodup ((toList_nodup _).filter _) ((toList_nodup _).filter _)).mpr ?_
  rintro ⟨k', b'⟩
  by_cases hkey : k' = k
  · simp [hkey]
  · have hcmp : cmp k k' ≠ .eq := fun h => hkey (LawfulEqCmp.eq_of_compare h).symm
    simp [ExtTreeMap.mem_toList_iff_getElem?_eq_some, ExtTreeMap.getElem?_insert, hcmp, hkey]

lemma toList_insert_perm (m : ExtTreeMap α β cmp) (k : α) (b : β) :
    (m.insert k b).toList.Perm ((k, b) :: others m k) :=
  (toList_perm ExtTreeMap.getElem?_insert_self).trans ((others_insert_perm m k b).cons _)

/-- A new entry is counted if it passes the test. -/
lemma countP_insert_new (h : m[k]? = none) (b : β) (p : α × β → Bool) :
    (m.insert k b).toList.countP p = m.toList.countP p + if p (k, b) then 1 else 0 := by
  rw [(toList_insert_perm m k b).countP_eq p, others_eq_toList h, List.countP_cons]

/-- Replacing an entry by one that does alike in the test changes no count. -/
lemma countP_insert_same {b c : β} (h : m[k]? = some c) {p : α × β → Bool}
    (hp : p (k, b) = p (k, c)) : (m.insert k b).toList.countP p = m.toList.countP p := by
  rw [(toList_insert_perm m k b).countP_eq p, (toList_perm h).countP_eq p, List.countP_cons,
    List.countP_cons, hp]

end Entries
