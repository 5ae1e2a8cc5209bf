import MacpRuntime.Lib.FloatText
import Std.Data.ExtTreeMap

/-!
Typed readings of JSON values, as a derived `Deserialize` performs them: a struct is read from the
members of an object, or from the items of an array in the order of its fields; an absent field
takes its default, a present one must parse, and members under other keys are not read.
-/

namespace Serde

/-- The members a struct is read from. -/
def structMembers (fields : List String) : Json → Option (List (String × Json))
  | .object members => some members
  | .array items => if items.length ≤ fields.length then some (fields.zip items) else none
  | _ => none

export Json (fieldOr)

/-- The fields of a struct `σ`, which a `κ` takes one by one: their keys in order, and what is read
of members. -/
structure Fields (σ κ : Type) where
  keys : List String
  read : κ → List (String × Json) → Option σ

namespace Fields

variable {σ κ α : Type}

/-- No more fields. -/
def nil : Fields σ σ := ⟨[], fun mk _ => some mk⟩

/-- A field with a default, and the rest. -/
def field (key : String) (read : Json → Option α) (default : α) (rest : Fields σ κ) :
    Fields σ (α → κ) where
  keys := key :: rest.keys
  read mk members := (fieldOr read default key members).bind fun a => rest.read (mk a) members

end Fields

/-- A struct by its constructor and its fields. -/
def struct {σ κ : Type} (mk : κ) (fields : Fields σ κ) (v : Json) : Option σ :=
  (structMembers fields.keys v).bind (fields.read mk)

/-! ### Scalars and containers -/

/-- A string. -/
def text : Json → Option String
  | .string s => some s
  | _ => none

/-- A boolean. -/
def flag : Json → Option Bool
  | .bool b => some b
  | _ => none

/-- An unsigned integer below a bound. -/
def natural (bound : ℕ) : Json → Option ℕ
  | .number (.posInt n) => if n.toNat < bound then some n.toNat else none
  | _ => none

/-- A list of strings. -/
def texts : Json → Option (List String)
  | .array items => items.mapM text
  | _ => none

/-- A map of doubles; a later member replaces an earlier one under the same key. -/
def doubles (t : FloatText) : Json → Option (Std.ExtTreeMap String Float)
  | .object members =>
    members.foldlM (fun map entry => (t.fromJson entry.2).map fun x => map.insert entry.1 x) ∅
  | _ => none

/-- A unit variant: its name, or the object whose only member is the name with `null`. -/
def unitVariant {α : Type} (variant : String → Option α) : Json → Option α
  | .string s => variant s
  | .object [(s, .null)] => variant s
  | _ => none

/-! ### What is read of the members -/

/-- Members that are dropped under other keys are not missed. -/
lemma lookup_filter {members : List (String × Json)} {keep : String → Bool} {key : String}
    (h : keep key = true) : (members.filter fun m => keep m.1).lookup key = members.lookup key := by
  induction members with
  | nil => rfl
  | cons m ms ih =>
    obtain ⟨k, v⟩ := m
    rw [List.filter_cons]
    by_cases hk : key = k
    · subst hk
      rw [if_pos h, List.lookup_cons_self, List.lookup_cons_self]
    · have hne : (key == k) = false := by simpa using hk
      rw [List.lookup_cons, hne]
      split_ifs
      · rw [List.lookup_cons, hne]
        exact ih
      · exact ih

end Serde
