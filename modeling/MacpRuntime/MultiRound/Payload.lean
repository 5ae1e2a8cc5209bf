import MacpRuntime.Modes.Readable

/-!
The two shapes of a contribution (`parse_contribute_value`): **the canonical encoding of a value is
read as that value from revision 3 on, and a JSON object that begins with its brace is read as its
member at every revision**, although some bytes are both (`contribution_unambiguous`).
-/

namespace MacpRuntime.MultiRound

variable {d : Deps}

/-- The canonical encoding of a `ContributePayload`. -/
def canonical (value : String) : Bytes := Protobuf.writeFields (textField 1 value)

/-- A JSON object text with the given string as its `value` member; other members are ignored. -/
def HasValue (text value : String) : Prop :=
  ∃ members, Json.Denotes text.toList (.object members)
    ∧ members.filter (fun m => m.1 == "value") = [("value", .string value)]

/-- `prost` encodes canonically and decodes what it encodes. -/
structure Deps.Prost (d : Deps) : Prop where
  encode : ∀ value, d.encodeContribute value = canonical value
  decode : ∀ value, d.decodeContribute (canonical value) = some value

/-- `serde_json` reads the member of every such text. -/
def Deps.Serde (d : Deps) : Prop :=
  ∀ text value, HasValue text value → d.contributeJson (Utf8.encode text) = some value

/-- A canonical encoding is empty or begins with the key of its field. -/
lemma canonical_head (value : String) :
    canonical value = [] ∧ value = "" ∨ (canonical value).head? = some 0x0A := by
  unfold canonical textField
  split_ifs with hempty
  · exact .inl ⟨rfl, hempty⟩
  · exact .inr rfl

lemma head_encode_of_brace {text : String} (h : text.toList.head? = some Json.openBrace) :
    (Utf8.encode text).head? = some 0x7B := by
  obtain ⟨cs, hcs⟩ := List.head?_eq_some_iff.mp h
  rw [Utf8.encode, hcs, List.flatMap_cons]
  rfl

lemma isEmpty_of_head {bs : Bytes} {b : UInt8} (h : bs.head? = some b) : bs.isEmpty = false := by
  cases bs with
  | nil => cases h
  | cons => rfl

/-- **Either shape of a contribution is read as what it says.** -/
theorem contribution_unambiguous (hprost : d.Prost) (hserde : d.Serde) :
    (∀ (value : String) (rev : ℕ), value ≠ "" → 3 ≤ rev →
        parseContributeValue d (canonical value) rev = .ok value)
      ∧ ∀ (text value : String) (rev : ℕ), text.toList.head? = some Json.openBrace →
        HasValue text value → parseContributeValue d (Utf8.encode text) rev = .ok value := by
  constructor
  · intro value rev hne hrev
    have hhead : (canonical value).head? = some 0x0A :=
      (canonical_head value).resolve_left fun h => hne h.2
    have htrust : (decide (canonicalProtoRev ≤ rev) && (d.decodeContribute (canonical value)).any
        fun v => d.encodeContribute v == canonical value) = true := by
      rw [hprost.decode, Option.any_some, hprost.encode, beq_self_eq_true, Bool.and_true]
      exact decide_eq_true hrev
    unfold parseContributeValue
    rw [isEmpty_of_head hhead, if_neg Bool.false_ne_true]
    dsimp only
    rw [htrust, hprost.decode]
    cases d.contributeJson (canonical value) <;> rfl
  · intro text value rev hbrace hvalue
    have hhead := head_encode_of_brace hbrace
    -- no canonical encoding begins with a brace
    have hother : ∀ v, d.encodeContribute v ≠ Utf8.encode text := by
      intro v heq
      rw [hprost.encode] at heq
      rcases canonical_head v with ⟨hnil, -⟩ | hkey
      · rw [← heq, hnil] at hhead
        cases hhead
      · rw [← heq, hkey] at hhead
        cases hhead
    have htrust : (decide (canonicalProtoRev ≤ rev) && (d.decodeContribute (Utf8.encode text)).any
        fun v => d.encodeContribute v == Utf8.encode text) = false := by
      rw [Bool.and_eq_false_iff]
      refine .inr ?_
      rw [Option.any_eq_false]
      intro v _
      exact beq_false_of_ne (hother v)
    unfold parseContributeValue
    rw [isEmpty_of_head hhead, if_neg Bool.false_ne_true]
    dsimp only
    rw [htrust, hserde text value hvalue]

/-! ### Concrete decoders -/

/-- The only member `value` of an object. -/
def valueMember : Json → Option String
  | .object members =>
    match members.filter fun m => m.1 == "value" with
    | [(_, .string value)] => some value
    | _ => none
  | _ => none

/-- The mode with a reader of JSON. -/
def jsonDeps : Deps :=
  { deps with
    encodeContribute := canonical
    contributeJson := fun payload =>
      (Utf8.decode payload).bind fun text => (Json.parse text.toList).bind valueMember }

lemma jsonDeps_prost : jsonDeps.Prost where
  encode := fun _ => rfl
  decode := fun value => by
    change mergeFields _ _ _ (Protobuf.writeFields _) = _
    rw [mergeFields, Protobuf.decodeMessage_writeFields
      (textField_writable (by norm_num) (by norm_num))]
    exact @foldlM_textField _ _ _ _ _ id (fun _ => Option.map_id_apply.symm) rfl

lemma jsonDeps_serde : jsonDeps.Serde := by
  rintro text value ⟨members, hdenotes, hmember⟩
  change (Utf8.decode (Utf8.encode text)).bind _ = _
  rw [Utf8.decode_encode, Option.bind_some, Json.parse_of_denotes hdenotes, Option.bind_some,
    valueMember, hmember]

/-- The object with the value `x`. -/
def sampleText : String :=
  String.ofList (Json.write (.object [("value", .string "x")]))

lemma sampleText_hasValue : HasValue sampleText "x" := by
  refine ⟨[("value", .string "x")], ?_, rfl⟩
  rw [sampleText, String.toList_ofList]
  exact Json.denotes_write ⟨trivial, trivial, trivial⟩

theorem contribution_unambiguous_sample :
    jsonDeps.Prost ∧ jsonDeps.Serde
      ∧ parseContributeValue jsonDeps (canonical "x") 3 = .ok "x"
      ∧ parseContributeValue jsonDeps (Utf8.encode sampleText) 3 = .ok "x" := by
  obtain ⟨hproto, hjson⟩ := contribution_unambiguous jsonDeps_prost jsonDeps_serde
  exact ⟨jsonDeps_prost, jsonDeps_serde, hproto "x" 3 (by decide) le_rfl,
    hjson sampleText "x" 3 rfl sampleText_hasValue⟩

end MacpRuntime.MultiRound
