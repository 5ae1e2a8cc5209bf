import MacpRuntime.Modes.Builtin
import MacpRuntime.Modes.Readable
import MacpRuntime.Server.Registries

/-!
The mode registry over whole sequences of calls (`macp-modes/src/mode_registry.rs`).

* `Change`: what one call does to a registry; every invariant below is read off it;
* `Displaces`: the promotion of a built-in extension to another name, which goes through;
* `registry_sound_iff`: **in a run of calls every built-in mode stays where it is, the reserved
  namespace stays closed, entries are named by their keys and the standards track is never left,
  exactly if no call displaces a built-in mode**.
-/

namespace MacpRuntime

open Std

/-! ### The default registry -/

/-- What the built-in modes are given. -/
structure BuiltinDeps where
  decision : Decision.Deps
  proposal : Proposal.Deps
  task : Task.Deps
  handoff : Handoff.Deps
  quorum : Quorum.Deps
  multiRound : MultiRound.Deps

/-- The standard modes. -/
def standardModeNames : List String :=
  ["macp.mode.decision.v1", "macp.mode.proposal.v1", "macp.mode.task.v1", "macp.mode.handoff.v1",
    "macp.mode.quorum.v1"]

/-- The built-in extension. -/
def multiRoundName : String := "ext.multi_round.v1"

/-- The descriptors of the standard modes. -/
def standardModeDescriptors : List ModeDescriptor :=
  [⟨"macp.mode.decision.v1", "1.0.0",
      ["SessionStart", "Proposal", "Evaluation", "Objection", "Vote", "Commitment"],
      ["Commitment"]⟩,
    ⟨"macp.mode.proposal.v1", "1.0.0",
      ["SessionStart", "Proposal", "CounterProposal", "Accept", "Reject", "Withdraw",
        "Commitment"], ["Commitment"]⟩,
    ⟨"macp.mode.task.v1", "1.0.0",
      ["SessionStart", "TaskRequest", "TaskAccept", "TaskReject", "TaskUpdate", "TaskComplete",
        "TaskFail", "Commitment"], ["Commitment"]⟩,
    ⟨"macp.mode.handoff.v1", "1.0.0",
      ["SessionStart", "HandoffOffer", "HandoffContext", "HandoffAccept", "HandoffDecline",
        "Commitment"], ["Commitment"]⟩,
    ⟨"macp.mode.quorum.v1", "1.0.0",
      ["SessionStart", "ApprovalRequest", "Approve", "Reject", "Abstain", "Commitment"],
      ["Commitment"]⟩]

/-- The descriptor of the built-in extension. -/
def extensionModeDescriptors : List ModeDescriptor :=
  [⟨"ext.multi_round.v1", "1.0.0", ["SessionStart", "Contribute", "Commitment"], ["Commitment"]⟩]

/-- The descriptor of an entry names the entry. -/
def ModeRegistration.describe (registration : ModeRegistration) : Option ModeDescriptor :=
  registration.descriptor.map fun descriptor => { descriptor with mode := registration.modeName }

namespace ModeRegistry

/-- The entry of a built-in mode. -/
def insertBuiltin (name : String) (factory : Mode) (standardsTrack strictSessionStart : Bool) :
    String × ModeRegistration :=
  (name, {
    modeName := name
    factory
    descriptor :=
      (standardModeDescriptors ++ extensionModeDescriptors).find? fun d => d.mode == name
    standardsTrack
    builtin := true
    strictSessionStart })

variable (d : BuiltinDeps)

/-- The built-in registrations. -/
def builtins : List (String × ModeRegistration) :=
  [insertBuiltin "macp.mode.decision.v1" (Decision.parts d.decision).mode true true,
    insertBuiltin "macp.mode.proposal.v1" (Proposal.parts d.proposal).mode true true,
    insertBuiltin "macp.mode.task.v1" (Task.parts d.task).mode true true,
    insertBuiltin "macp.mode.handoff.v1" (Handoff.mode d.handoff) true true,
    insertBuiltin "macp.mode.quorum.v1" (Quorum.parts d.quorum).mode true true,
    insertBuiltin "ext.multi_round.v1" (MultiRound.parts d.multiRound).mode false true]

/-- The registry a server starts with. -/
def buildDefault : ModeRegistry := ⟨.ofList (builtins d)⟩

lemma builtins_keys :
    (builtins d).map Prod.fst = standardModeNames ++ [multiRoundName] := rfl

/-- The default registry holds the built-in modes and nothing else. -/
lemma getMode_buildDefault (name : String) (entry : ModeRegistration) :
    (buildDefault d).getMode name = some entry ↔ (name, entry) ∈ builtins d := by
  have hdistinct : (builtins d).Pairwise fun a b => ¬ compare a.1 b.1 = .eq := by
    have hkeys : ((builtins d).map Prod.fst).Pairwise fun a b => ¬ compare a b = .eq := by
      rw [builtins_keys]
      decide
    exact List.pairwise_map.mp hkeys
  rw [getMode, buildDefault]
  constructor
  · intro h
    have hmem : name ∈ (builtins d).map Prod.fst := by
      by_contra hnot
      rw [ExtTreeMap.getElem?_ofList_of_contains_eq_false (by simpa using hnot)] at h
      cases h
    obtain ⟨⟨key, found⟩, hfound, rfl⟩ := List.mem_map.mp hmem
    rw [ExtTreeMap.getElem?_ofList_of_mem (Std.ReflCmp.compare_self) hdistinct hfound] at h
    cases h
    exact hfound
  · intro h
    exact ExtTreeMap.getElem?_ofList_of_mem (Std.ReflCmp.compare_self) hdistinct h

variable {b : String × ModeRegistration} {d : BuiltinDeps} {name mode : String}
  {registry registry' : ModeRegistry} {prost : Prost} {newName : Option String} {r : Registries}
  {call : RegistryEdit}

/-- A built-in mode is on the standards track, or it is the extension. -/
lemma builtin_cases (h : b ∈ builtins d) :
    b.2.standardsTrack = true
      ∨ b.1 = multiRoundName ∧ b.2.factory = (MultiRound.parts d.multiRound).mode := by
  simp only [builtins, List.mem_cons, List.not_mem_nil, or_false] at h
  rcases h with rfl | rfl | rfl | rfl | rfl | rfl
  · exact .inl rfl
  · exact .inl rfl
  · exact .inl rfl
  · exact .inl rfl
  · exact .inl rfl
  · exact .inr ⟨rfl, rfl⟩

/-- The flags and the names of a built-in mode's entry. -/
lemma builtin_entry (h : b ∈ builtins d) :
    b.2.modeName = b.1 ∧ b.2.builtin = true ∧ b.2.strictSessionStart = true
      ∧ b.2.descriptor.isSome = true := by
  have hdescriptor : ∀ name ∈ standardModeNames ++ [multiRoundName],
      ((standardModeDescriptors ++ extensionModeDescriptors).find? fun e =>
        e.mode == name).isSome = true := by decide
  have hname : b.1 ∈ standardModeNames ++ [multiRoundName] :=
    builtins_keys d ▸ List.mem_map_of_mem h
  have hform : ∃ factory track strict,
      strict = true ∧ b = insertBuiltin b.1 factory track strict := by
    simp only [builtins, List.mem_cons, List.not_mem_nil, or_false] at h
    rcases h with rfl | rfl | rfl | rfl | rfl | rfl
    · exact ⟨_, _, _, rfl, rfl⟩
    · exact ⟨_, _, _, rfl, rfl⟩
    · exact ⟨_, _, _, rfl, rfl⟩
    · exact ⟨_, _, _, rfl, rfl⟩
    · exact ⟨_, _, _, rfl, rfl⟩
    · exact ⟨_, _, _, rfl, rfl⟩
  obtain ⟨factory, track, strict, hstrict, hb⟩ := hform
  rw [hb]
  exact ⟨rfl, rfl, hstrict, hdescriptor b.1 hname⟩

lemma mem_standard (h : name ∈ standardModeNames) :
    ∃ b ∈ builtins d, b.1 = name ∧ b.2.builtin = true ∧ b.2.standardsTrack = true := by
  have hkey : name ∈ (builtins d).map Prod.fst := by
    rw [builtins_keys]
    exact List.mem_append_left _ h
  obtain ⟨b, hb, rfl⟩ := List.mem_map.mp hkey
  refine ⟨b, hb, rfl, (builtin_entry hb).2.1, (builtin_cases hb).resolve_right fun hmulti => ?_⟩
  rw [hmulti.1] at h
  exact absurd h (by decide)

/-! ### One call -/

/-- The entry a promotion leaves. -/
def promoted (entry : ModeRegistration) (name : String) : ModeRegistration :=
  { entry with
    standardsTrack := true
    strictSessionStart := true
    modeName := name }

/-- What one call does: nothing, or it adds an extension, drops one, or promotes one. -/
inductive Change (registry : ModeRegistry) : ModeRegistry → Prop
  | none : Change registry registry
  | register {entry : ModeRegistration} : registry.getMode entry.modeName = none →
      startsWith entry.modeName "macp.mode." = false → entry.descriptor.isSome = true →
      entry.standardsTrack = false → entry.builtin = false →
      Change registry ⟨registry.entries.insert entry.modeName entry⟩
  | unregister {mode : String} {entry : ModeRegistration} : registry.getMode mode = some entry →
      entry.builtin = false → entry.standardsTrack = false →
      Change registry ⟨registry.entries.erase mode⟩
  | promote {mode name : String} {entry : ModeRegistration} : registry.getMode mode = some entry →
      entry.standardsTrack = false →
      (name ≠ mode → startsWith name "macp.mode." = false ∧ registry.getMode name = none) →
      Change registry ⟨(registry.entries.erase mode).insert name (promoted entry name)⟩

lemma getMode_eq_none_of_contains (h : ¬ registry.entries.contains name = true) :
    registry.getMode name = none := by
  rw [ExtTreeMap.contains_eq_isSome_getElem?] at h
  rw [getMode]
  simpa using h

lemma registerExtension_change {descriptor : ModeDescriptor}
    (h : registry.registerExtension prost descriptor = .ok registry') :
    Change registry registry' := by
  unfold registerExtension at h
  split at h
  · cases h
  · rename_i hvalid
    split_ifs at h with hin
    cases h
    have hreserved : startsWith descriptor.mode "macp.mode." = false := by
      unfold validateExtensionDescriptor at hvalid
      split_ifs at hvalid with _ hreserved
      simpa using hreserved
    exact @Change.register registry { modeName := descriptor.mode, .. }
      (getMode_eq_none_of_contains hin) hreserved rfl rfl rfl

lemma unregisterExtension_change (h : registry.unregisterExtension mode = .ok registry') :
    Change registry registry' := by
  unfold unregisterExtension at h
  split at h
  · cases h
  · rename_i entry hentry
    split_ifs at h with hbuiltin htrack
    cases h
    exact .unregister hentry (by simpa using hbuiltin) (by simpa using htrack)

/-- When a promotion goes through, and what it leaves. -/
lemma promoteMode_eq_ok :
    registry.promoteMode mode newName = .ok registry' ↔
      ∃ entry, registry.getMode mode = some entry ∧ entry.standardsTrack = false
        ∧ (newName.getD mode ≠ mode → startsWith (newName.getD mode) "macp.mode." = false
          ∧ registry.getMode (newName.getD mode) = none)
        ∧ (trim (newName.getD mode)).isEmpty = false
        ∧ registry' = ⟨(registry.entries.erase mode).insert (newName.getD mode)
          (promoted entry (newName.getD mode))⟩ := by
  unfold promoteMode
  constructor
  · intro h
    split at h
    · cases h
    · rename_i entry hentry
      dsimp only at h
      split_ifs at h with htrack hreserved hempty htaken
      cases h
      refine ⟨entry, hentry, by simpa using htrack, fun hne => ⟨?_, ?_⟩, by simpa using hempty,
        rfl⟩
      · simpa [hne] using hreserved
      · exact getMode_eq_none_of_contains fun hin => htaken ⟨hne, hin⟩
  · rintro ⟨entry, hentry, htrack, hfree, hempty, rfl⟩
    rw [hentry]
    dsimp only
    rw [if_neg (by simp [htrack]), if_neg fun h => by simp [(hfree h.1).1] at h,
      if_neg (by simp [hempty]), if_neg ?_]
    · rfl
    · rintro ⟨hne, hin⟩
      have hnone := (hfree hne).2
      rw [getMode] at hnone
      rw [ExtTreeMap.contains_eq_isSome_getElem?, hnone] at hin
      cases hin

lemma promoteMode_change (h : registry.promoteMode mode newName = .ok registry') :
    Change registry registry' := by
  obtain ⟨entry, hentry, htrack, hfree, -, rfl⟩ := promoteMode_eq_ok.mp h
  exact .promote hentry htrack hfree

/-- **Every call is a change.** -/
theorem edit_change (prost : Prost) (r : Registries) (call : RegistryEdit) :
    Change r.modes (r.edit prost call).modes := by
  unfold Registries.edit
  cases call with
  | registerPolicy definition =>
    dsimp only
    exact .none
  | unregisterPolicy policyId =>
    dsimp only
    exact .none
  | registerMode descriptor =>
    dsimp only
    exact toOption_getD_cases (P := Change r.modes) .none fun _ => registerExtension_change
  | unregisterMode mode =>
    dsimp only
    exact toOption_getD_cases (P := Change r.modes) .none fun _ => unregisterExtension_change
  | promoteMode mode newName =>
    dsimp only
    exact toOption_getD_cases (P := Change r.modes) .none fun _ => promoteMode_change

/-- An entry after a change: an old one, a new extension, or a promoted one. -/
lemma Change.entry (h : Change registry registry') {entry : ModeRegistration}
    (hentry : registry'.getMode name = some entry) :
    registry.getMode name = some entry
      ∨ (entry.modeName = name ∧ startsWith name "macp.mode." = false
        ∧ entry.descriptor.isSome = true ∧ entry.standardsTrack = false ∧ entry.builtin = false)
      ∨ ∃ mode old, registry.getMode mode = some old ∧ old.standardsTrack = false
        ∧ entry = promoted old name
        ∧ (name ≠ mode → startsWith name "macp.mode." = false) := by
  cases h with
  | none => exact .inl hentry
  | @register new hfree hreserved hdescriptor htrack hbuiltin =>
    rw [getMode, ExtTreeMap.getElem?_insert] at hentry
    split_ifs at hentry with hname
    · obtain rfl := Std.compare_eq_iff_eq.mp hname
      cases hentry
      exact .inr (.inl ⟨rfl, hreserved, hdescriptor, htrack, hbuiltin⟩)
    · exact .inl hentry
  | unregister hold hbuiltin htrack =>
    rw [getMode, ExtTreeMap.getElem?_erase] at hentry
    split_ifs at hentry with hname
    exact .inl hentry
  | @promote mode final old hold htrack hfree =>
    rw [getMode, ExtTreeMap.getElem?_insert] at hentry
    split_ifs at hentry with hname
    · obtain rfl := Std.compare_eq_iff_eq.mp hname
      cases hentry
      exact .inr (.inr ⟨mode, old, hold, htrack, rfl, fun hne => (hfree hne).1⟩)
    · rw [ExtTreeMap.getElem?_erase] at hentry
      split_ifs at hentry with hmode
      exact .inl hentry

/-! ### What no call can break -/

/-- The invariants of every sequence of calls. -/
structure Kept (d : BuiltinDeps) (registry : ModeRegistry) : Prop where
  standard : ∀ b ∈ builtins d, b.2.standardsTrack = true → registry.getMode b.1 = some b.2
  reserved : ∀ name entry, registry.getMode name = some entry →
    startsWith name "macp.mode." = true → name ∈ standardModeNames
  named : ∀ name entry, registry.getMode name = some entry →
    entry.modeName = name ∧ entry.descriptor.isSome = true
  strict : ∀ name entry, registry.getMode name = some entry →
    entry.standardsTrack = true → entry.strictSessionStart = true
  movable : ∀ name entry, registry.getMode name = some entry → entry.builtin = true →
    entry.standardsTrack = true ∨ name = multiRoundName

lemma kept_buildDefault (d : BuiltinDeps) : Kept d (buildDefault d) := by
  have hmem : ∀ {name entry}, (buildDefault d).getMode name = some entry →
      (name, entry) ∈ builtins d := fun {name entry} h => (getMode_buildDefault d name entry).mp h
  refine ⟨fun b hb _ => (getMode_buildDefault d b.1 b.2).mpr hb,
    fun name entry hentry hreserved => ?_, fun name entry hentry => ?_,
    fun name entry hentry _ => (builtin_entry (hmem hentry)).2.2.1, fun name entry hentry _ => ?_⟩
  · have hkey : name ∈ standardModeNames ++ [multiRoundName] :=
      builtins_keys d ▸ List.mem_map_of_mem (hmem hentry)
    rcases List.mem_append.mp hkey with hname | hname
    · exact hname
    · rw [List.mem_singleton.mp hname] at hreserved
      exact absurd hreserved (by decide)
  · exact ⟨(builtin_entry (hmem hentry)).1, (builtin_entry (hmem hentry)).2.2.2⟩
  · exact (builtin_cases (hmem hentry)).imp_right And.left

/-- **A call keeps the invariants.** -/
theorem Kept.edit (h : Kept d r.modes) (call : RegistryEdit) :
    Kept d (r.edit prost call).modes := by
  have hchange := edit_change prost r call
  refine ⟨fun b hb htrack => ?_, fun name entry hentry hreserved => ?_,
    fun name entry hentry => ?_, fun name entry hentry htrack => ?_,
    fun name entry hentry hbuiltin => ?_⟩
  · exact Registries.edit_standardsTrack (h.standard b hb htrack) htrack call
  · rcases hchange.entry hentry with hold | ⟨-, hfree, -⟩ | ⟨mode, old, hold, -, -, hfree⟩
    · exact h.reserved name entry hold hreserved
    · rw [hfree] at hreserved
      cases hreserved
    · -- a promotion under a reserved name would be that of a standards-track mode
      by_cases hname : name = mode
      · exact h.reserved name old (hname ▸ hold) hreserved
      · rw [hfree hname] at hreserved
        cases hreserved
  · rcases hchange.entry hentry with hold | ⟨hname, -, hsome, -⟩ | ⟨mode, old, hold, -, rfl, -⟩
    · exact h.named name entry hold
    · exact ⟨hname, hsome⟩
    · exact ⟨rfl, (h.named mode old hold).2⟩
  · rcases hchange.entry hentry with hold | ⟨-, -, -, hext, -⟩ | ⟨mode, old, -, -, rfl, -⟩
    · exact h.strict name entry hold htrack
    · rw [hext] at htrack
      cases htrack
    · rfl
  · rcases hchange.entry hentry with hold | ⟨-, -, -, -, hext⟩ | ⟨mode, old, -, -, rfl, -⟩
    · exact h.movable name entry hold hbuiltin
    · rw [hext] at hbuiltin
      cases hbuiltin
    · exact .inl rfl

lemma Kept.edits (h : Kept d r.modes) (calls : List RegistryEdit) :
    Kept d (r.edits prost calls).modes := by
  induction calls generalizing r with
  | nil => exact h
  | cons call calls ih => exact ih (h.edit call)

/-! ### The built-in extension -/

/-- The built-in extension is under its own name. -/
def Home (d : BuiltinDeps) (registry : ModeRegistry) : Prop :=
  ∃ entry, registry.getMode multiRoundName = some entry ∧ entry.builtin = true
    ∧ entry.factory = (MultiRound.parts d.multiRound).mode

/-- The call promotes a built-in extension to another name, which nothing refuses. -/
def Displaces (registry : ModeRegistry) (call : RegistryEdit) : Prop :=
  ∃ mode name entry, call = .promoteMode mode (some name) ∧ registry.getMode mode = some entry
    ∧ entry.builtin = true ∧ entry.standardsTrack = false ∧ name ≠ mode
    ∧ startsWith name "macp.mode." = false ∧ (trim name).isEmpty = false
    ∧ registry.getMode name = none

lemma edit_promote (h : r.modes.promoteMode mode newName = .ok registry') :
    (r.edit prost (.promoteMode mode newName)).modes = registry' := by
  unfold Registries.edit
  dsimp only
  rw [h]
  rfl

/-- A displaced mode is not found under its name. -/
lemma Displaces.getMode_eq_none (hkept : Kept d r.modes) (h : Displaces r.modes call) :
    (r.edit prost call).modes.getMode multiRoundName = none := by
  obtain ⟨mode, name, entry, rfl, hentry, hbuiltin, htrack, hne, hfree, hempty, hnone⟩ := h
  obtain rfl : mode = multiRoundName :=
    (hkept.movable mode entry hentry hbuiltin).resolve_left (by simp [htrack])
  have hok : r.modes.promoteMode multiRoundName (some name)
      = .ok ⟨(r.modes.entries.erase multiRoundName).insert name (promoted entry name)⟩ :=
    promoteMode_eq_ok.mpr ⟨entry, hentry, htrack, fun _ => ⟨hfree, hnone⟩, hempty, rfl⟩
  rw [edit_promote hok, getMode, ExtTreeMap.getElem?_insert,
    if_neg fun heq => hne (Std.compare_eq_iff_eq.mp heq), ExtTreeMap.getElem?_erase,
    if_pos Std.ReflCmp.compare_self]

/-- The extension stays under its name unless a call displaces it. -/
lemma Home.edit (h : Home d r.modes) (hcall : ¬ Displaces r.modes call) :
    Home d (r.edit prost call).modes := by
  obtain ⟨entry, hentry, hbuiltin, hfactory⟩ := h
  have hhome : Home d r.modes := ⟨entry, hentry, hbuiltin, hfactory⟩
  unfold Registries.edit
  cases call with
  | registerPolicy definition =>
    dsimp only
    exact hhome
  | unregisterPolicy policyId =>
    dsimp only
    exact hhome
  | registerMode descriptor =>
    dsimp only
    exact toOption_getD_cases (P := Home d) hhome fun _ hok =>
      ⟨entry, registerExtension_frame hok hentry, hbuiltin, hfactory⟩
  | unregisterMode mode =>
    dsimp only
    refine toOption_getD_cases (P := Home d) hhome fun registry' hok => ?_
    unfold unregisterExtension at hok
    split at hok
    · cases hok
    · rename_i found hfound
      split_ifs at hok with hfoundBuiltin
      cases hok
      refine ⟨entry, ?_, hbuiltin, hfactory⟩
      rw [getMode, ExtTreeMap.getElem?_erase, if_neg fun heq => ?_]
      · exact hentry
      · obtain rfl := Std.compare_eq_iff_eq.mp heq
        cases hentry.symm.trans hfound
        exact hfoundBuiltin hbuiltin
  | promoteMode mode newName =>
    dsimp only
    refine toOption_getD_cases (P := Home d) hhome fun registry' hok => ?_
    obtain ⟨old, hold, htrack, hfree, hempty, rfl⟩ := promoteMode_eq_ok.mp hok
    by_cases hmode : mode = multiRoundName
    · subst hmode
      cases hentry.symm.trans hold
      by_cases hname : newName.getD multiRoundName = multiRoundName
      · refine ⟨promoted entry multiRoundName, ?_, hbuiltin, hfactory⟩
        rw [hname, getMode, ExtTreeMap.getElem?_insert_self]
      · cases newName with
        | none => exact absurd rfl hname
        | some name =>
          exact absurd ⟨_, name, _, rfl, hentry, hbuiltin, htrack, hname, (hfree hname).1,
            hempty, (hfree hname).2⟩ hcall
    · have hname : newName.getD mode ≠ multiRoundName := by
        intro heq
        have hnone := (hfree fun hsame => hmode (hsame.symm.trans heq)).2
        rw [heq, hentry] at hnone
        cases hnone
      refine ⟨entry, ?_, hbuiltin, hfactory⟩
      rw [getMode, ExtTreeMap.getElem?_insert,
        if_neg fun heq => hname (Std.compare_eq_iff_eq.mp heq), ExtTreeMap.getElem?_erase,
        if_neg fun heq => hmode (Std.compare_eq_iff_eq.mp heq)]
      exact hentry

/-! ### Runs -/

/-- What is expected of a registry: the built-in modes are under their names, the reserved
namespace holds the five standards-track ones only, and every entry is named by its key. -/
structure Sound (d : BuiltinDeps) (registry : ModeRegistry) : Prop where
  builtin : ∀ b ∈ builtins d, ∃ entry, registry.getMode b.1 = some entry
    ∧ entry.factory = b.2.factory
  reserved : ∀ name, startsWith name "macp.mode." = true →
    ((registry.getMode name).isSome = true ↔ name ∈ standardModeNames)
  standard : ∀ name ∈ standardModeNames, ∃ entry, registry.getMode name = some entry
    ∧ entry.builtin = true ∧ entry.standardsTrack = true
  named : ∀ name entry, registry.getMode name = some entry →
    ∃ descriptor, entry.describe = some descriptor ∧ descriptor.mode = name

/-- The registry is sound after every call, and the standards track is never left. -/
def RunSound (d : BuiltinDeps) (prost : Prost) (r : Registries) (calls : List RegistryEdit) :
    Prop :=
  ∀ before after, calls = before ++ after → Sound d (r.edits prost before).modes
    ∧ ∀ name entry, (r.edits prost before).modes.getMode name = some entry →
      entry.standardsTrack = true → ∃ entry', (r.edits prost calls).modes.getMode name = some entry'
        ∧ entry'.standardsTrack = true ∧ entry'.strictSessionStart = true

/-- No call displaces a built-in mode. -/
def Undisturbed (prost : Prost) (r : Registries) (calls : List RegistryEdit) : Prop :=
  ∀ before call after, calls = before ++ call :: after →
    ¬ Displaces (r.edits prost before).modes call

/-- The invariants give soundness. -/
lemma Kept.sound (h : Kept d registry) (hhome : Home d registry) : Sound d registry := by
  have hstandard : ∀ name ∈ standardModeNames, ∃ entry, registry.getMode name = some entry
      ∧ entry.builtin = true ∧ entry.standardsTrack = true := by
    intro name hname
    obtain ⟨b, hb, rfl, hbuiltin, htrack⟩ := mem_standard (d := d) hname
    exact ⟨b.2, h.standard b hb htrack, hbuiltin, htrack⟩
  refine ⟨fun b hb => ?_, fun name hreserved => ⟨fun hsome => ?_, fun hname => ?_⟩, hstandard,
    fun name entry hentry => ?_⟩
  · rcases builtin_cases hb with htrack | ⟨hname, hfactory⟩
    · exact ⟨b.2, h.standard b hb htrack, rfl⟩
    · obtain ⟨entry, hentry, -, hentryFactory⟩ := hhome
      exact ⟨entry, hname ▸ hentry, hentryFactory.trans hfactory.symm⟩
  · obtain ⟨entry, hentry⟩ := Option.isSome_iff_exists.mp hsome
    exact h.reserved name entry hentry hreserved
  · obtain ⟨entry, hentry, -⟩ := hstandard name hname
    rw [hentry]
    rfl
  · obtain ⟨hname, hsome⟩ := h.named name entry hentry
    obtain ⟨descriptor, hdescriptor⟩ := Option.isSome_iff_exists.mp hsome
    exact ⟨{ descriptor with mode := entry.modeName }, by rw [ModeRegistration.describe,
      hdescriptor, Option.map_some], hname⟩

/-- The extension stays under its name along a run that does not displace it. -/
lemma Home.edits (h : Home d r.modes) {calls : List RegistryEdit}
    (hcalls : Undisturbed prost r calls) : Home d (r.edits prost calls).modes := by
  induction calls generalizing r with
  | nil => exact h
  | cons call calls ih =>
    refine ih (h.edit (hcalls [] call calls rfl)) fun before next after heq => ?_
    have hnext := hcalls (call :: before) next after (by rw [heq]; rfl)
    exact hnext

lemma home_buildDefault (d : BuiltinDeps) : Home d (buildDefault d) :=
  ⟨(insertBuiltin multiRoundName (MultiRound.parts d.multiRound).mode false true).2,
    (getMode_buildDefault d _ _).mpr (by simp [builtins, insertBuiltin, multiRoundName]), rfl, rfl⟩

/-- **A run of calls on the default registry is sound exactly if no call displaces a built-in
mode.** -/
theorem registry_sound_iff (d : BuiltinDeps) (prost : Prost) (policies : PolicyRegistry)
    (calls : List RegistryEdit) :
    RunSound d prost ⟨buildDefault d, policies⟩ calls
      ↔ Undisturbed prost ⟨buildDefault d, policies⟩ calls := by
  set r : Registries := ⟨buildDefault d, policies⟩ with hr
  have hkept : ∀ before, Kept d (r.edits prost before).modes := fun before =>
    Kept.edits (r := r) (kept_buildDefault d) before
  constructor
  · intro hsound before call after heq hdisplaces
    -- after the call the extension is not found
    have hnone : ((r.edits prost before).edit prost call).modes.getMode multiRoundName = none :=
      hdisplaces.getMode_eq_none (hkept before)
    have hafter := (hsound (before ++ [call]) after (by simp [heq])).1.builtin
      (insertBuiltin multiRoundName (MultiRound.parts d.multiRound).mode false true)
      (by simp [builtins, multiRoundName])
    obtain ⟨entry, hentry, -⟩ := hafter
    rw [Registries.edits, List.foldl_append, List.foldl_cons, List.foldl_nil] at hentry
    cases hnone.symm.trans hentry
  · intro hcalls before after heq
    have hbefore : Undisturbed prost r before := fun b call a hb =>
      hcalls b call (a ++ after) (by rw [heq, hb, List.append_assoc, List.cons_append])
    refine ⟨(hkept before).sound (Home.edits (r := r) (home_buildDefault d) hbefore),
      fun name entry hentry htrack => ?_⟩
    have hlater : (r.edits prost calls).modes.getMode name = some entry := by
      rw [heq, Registries.edits, List.foldl_append]
      exact Registries.edits_standardsTrack hentry htrack after
    exact ⟨entry, hlater, htrack, (hkept calls).strict name entry hlater htrack⟩

/-! ### A displaced mode -/

/-- Modes with the sample codecs. -/
def sampleBuiltins : BuiltinDeps :=
  ⟨Decision.deps, Proposal.deps, Task.deps, Handoff.deps, Quorum.deps, MultiRound.deps⟩

/-- The registries a server starts with. -/
def sampleRegistries : Registries := ⟨buildDefault sampleBuiltins, ⟨∅, fun _ => .ok ()⟩⟩

/-- The promotion of the built-in extension to another name. -/
def samplePromotion : RegistryEdit := .promoteMode "ext.multi_round.v1" (some "ext.consensus.v1")

/-- The registration of an extension under the name that became free. -/
def sampleRegistration : RegistryEdit :=
  .registerMode ⟨"ext.multi_round.v1", "1.0.0", ["Contribute", "Commitment"], ["Commitment"]⟩

/-- The promotion leaves nothing under the built-in name, and a passed-through extension can then
be registered under it. -/
theorem multi_round_displaced :
    ¬ RunSound sampleBuiltins protobuf sampleRegistries [samplePromotion]
      ∧ (sampleRegistries.edits protobuf [samplePromotion]).modes.getMode
        "ext.multi_round.v1" = none
      ∧ ((sampleRegistries.edits protobuf [samplePromotion, sampleRegistration]).modes.getMode
        "ext.multi_round.v1").map (fun entry => entry.builtin) = some false := by
  have hnone : (sampleRegistries.edits protobuf [samplePromotion]).modes.getMode
      "ext.multi_round.v1" = none := by rfl
  refine ⟨fun hsound => ?_, hnone, by rfl⟩
  obtain ⟨entry, hentry, -⟩ := (hsound [samplePromotion] [] rfl).1.builtin
    (insertBuiltin multiRoundName (MultiRound.parts MultiRound.deps).mode false true)
    (by simp [builtins, multiRoundName, sampleBuiltins])
  cases hnone.symm.trans hentry

end ModeRegistry

end MacpRuntime
