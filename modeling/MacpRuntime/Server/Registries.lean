import MacpRuntime.Modes.Passthrough
import MacpRuntime.Policy.Keys

/-!
The registries a runtime resolves against: modes by name (`macp-modes/src/mode_registry.rs`) and
policies by id (`macp-policy/src/registry.rs`, `defaults.rs`), and their edits.  What a policy's
rules must look like to be registered is a parameter.

* `Registries.edits_standardsTrack`: **a standards-track mode is the same after any edits**;
* `Registries.edits_reserved`: **so is a policy with a reserved id**.
-/

namespace MacpRuntime

open Std

/-! ### Modes -/

/-- A mode's descriptor, as far as registration and acceptance read it. -/
structure ModeDescriptor where
  mode : String
  modeVersion : String
  messageTypes : List String
  terminalMessageTypes : List String
  deriving DecidableEq, Repr

/-- A registered mode; `factory` is the mode its factory creates. -/
structure ModeRegistration where
  modeName : String
  factory : Mode
  descriptor : Option ModeDescriptor
  standardsTrack : Bool
  builtin : Bool
  strictSessionStart : Bool

/-- The registered modes. -/
structure ModeRegistry where
  entries : ExtTreeMap String ModeRegistration

namespace ModeRegistry

variable (registry : ModeRegistry) (name : String)

/-- A mode by name. -/
def getMode : Option ModeRegistration :=
  registry.entries[name]?

/-- A fresh instance of a mode. -/
def instantiate : Except MacpError Mode :=
  match registry.getMode name with
  | none => .error .UnknownMode
  | some registration => .ok registration.factory

/-- Whether starts of a mode are strict. -/
def requiresStrictSessionStart : Bool :=
  ((registry.getMode name).map (·.strictSessionStart)).getD false

/-- The version of a mode's descriptor, unless it is empty. -/
def getModeVersion : Option String :=
  (((registry.getMode name).bind (·.descriptor)).map (·.modeVersion)).filter (!·.isEmpty)

/-- The first terminal type that could not end a session. -/
def terminalViolation (descriptor : ModeDescriptor) : Option String :=
  descriptor.terminalMessageTypes.findSome? fun terminal =>
    if terminal ≠ "Commitment" then
      some ("dynamically registered modes resolve only on 'Commitment'; terminal message type '"
        ++ terminal ++ "' would never terminate a session")
    else if !descriptor.messageTypes.any (· == terminal) then
      some ("terminal message type '" ++ terminal ++ "' must also appear in message_types")
    else none

/-- What an extension must declare. -/
def validateExtensionDescriptor (descriptor : ModeDescriptor) : Except String Unit :=
  if (trim descriptor.mode).isEmpty then .error "mode name must not be empty"
  else if startsWith descriptor.mode "macp.mode." then
    .error "cannot register extension with reserved macp.mode.* namespace"
  else if descriptor.messageTypes.isEmpty then
    .error "extension descriptor must declare at least one message type"
  else if (trim descriptor.modeVersion).isEmpty then
    .error "extension descriptor must bind mode_version"
  else if descriptor.terminalMessageTypes.isEmpty then
    .error "extension descriptor must declare at least one terminal message type"
  else
    match terminalViolation descriptor with
    | some message => .error message
    | none => .ok ()

/-- A dynamically registered mode passes its declared message types through. -/
def registerExtension (prost : Prost) (registry : ModeRegistry) (descriptor : ModeDescriptor) :
    Except String ModeRegistry :=
  match validateExtensionDescriptor descriptor with
  | .error message => .error message
  | .ok _ =>
    if registry.entries.contains descriptor.mode then
      .error ("mode '" ++ descriptor.mode ++ "' is already registered")
    else
      .ok ⟨registry.entries.insert descriptor.mode {
        modeName := descriptor.mode
        factory :=
          Passthrough.mode prost (descriptor.messageTypes.filter (· != "SessionStart"))
        descriptor := some descriptor
        standardsTrack := false
        builtin := false
        strictSessionStart := false }⟩

/-- Remove an extension. -/
def unregisterExtension (mode : String) : Except String ModeRegistry :=
  match registry.getMode mode with
  | none => .error ("mode '" ++ mode ++ "' not found")
  | some entry =>
    if entry.builtin then .error ("cannot unregister built-in mode '" ++ mode ++ "'")
    else if entry.standardsTrack then
      .error ("cannot unregister standards-track mode '" ++ mode ++ "'")
    else .ok ⟨registry.entries.erase mode⟩

/-- Promote an extension mode to the standards track, under a new name if one is given. -/
def promoteMode (mode : String) (newName : Option String) : Except String ModeRegistry :=
  match registry.getMode mode with
  | none => .error ("mode '" ++ mode ++ "' not found")
  | some entry =>
    let finalName := newName.getD mode
    if entry.standardsTrack then .error ("mode '" ++ mode ++ "' is already standards-track")
    else if finalName ≠ mode ∧ startsWith finalName "macp.mode." then
      .error ("cannot promote '" ++ mode ++ "' into the reserved macp.mode.* namespace")
    else if (trim finalName).isEmpty then .error "promotion target name must not be empty"
    else if finalName ≠ mode ∧ registry.entries.contains finalName then
      .error ("cannot promote: target name '" ++ finalName ++ "' already exists")
    else
      .ok ⟨(registry.entries.erase mode).insert finalName { entry with
        standardsTrack := true
        strictSessionStart := true
        modeName := finalName }⟩

end ModeRegistry

/-! ### Policies -/

/-- The policy of sessions that name none. -/
def defaultPolicyId : String := "policy.default"

/-- The namespace of the built-in governance profiles. -/
def stdPolicyPrefix : String := "policy.std."

/-- The ids that no edit can register or unregister. -/
def reservedPolicyId (policyId : String) : Bool :=
  policyId == defaultPolicyId || startsWith policyId stdPolicyPrefix

/-- A policy registry; `validateRules` is the check of a definition's rules against its mode,
which depends on the vendor extensions the registry was built with. -/
structure PolicyRegistry where
  entries : ExtTreeMap String PolicyDefinition
  validateRules : PolicyDefinition → Except String Unit

namespace PolicyRegistry

variable (registry : PolicyRegistry)

/-- A policy by id. -/
def get (policyId : String) : Option PolicyDefinition :=
  registry.entries[policyId]?

/-- The policy a version names; an empty version names the default one. -/
def resolve (policyVersion : String) : Option PolicyDefinition :=
  if policyVersion.isEmpty then registry.get defaultPolicyId else registry.get policyVersion

variable (definition : PolicyDefinition)

/-- The checks of a policy's rules. -/
def validateContent : Except String Unit :=
  if definition.schemaVersion = 0 then
    .error "INVALID_POLICY_DEFINITION: schema_version must be > 0"
  else if !supportedSchemaVersions.contains definition.schemaVersion then
    .error ("INVALID_POLICY_DEFINITION: schema_version " ++ toString definition.schemaVersion
      ++ " is not supported (supported: " ++ toString supportedSchemaVersions ++ ")")
  else if !isObject definition.rules then
    .error "INVALID_POLICY_DEFINITION: rules must be a JSON object"
  else registry.validateRules definition

/-- The checks of a definition. -/
def validateDefinition : Except String Unit :=
  if (trim definition.policyId).isEmpty then
    .error "INVALID_POLICY_DEFINITION: policy_id must not be empty"
  else if definition.policyId = defaultPolicyId then
    .error ("INVALID_POLICY_DEFINITION: cannot register with reserved policy_id '"
      ++ defaultPolicyId ++ "'")
  else registry.validateContent definition

/-- Add a policy. -/
def register : Except String PolicyRegistry :=
  match registry.validateDefinition definition with
  | .error message => .error message
  | .ok _ =>
    if registry.entries.contains definition.policyId then
      .error ("policy '" ++ definition.policyId ++ "' is already registered")
    else .ok { registry with
      entries := registry.entries.insert definition.policyId definition }

/-- Remove a policy. -/
def unregister (policyId : String) : Except String PolicyRegistry :=
  if policyId = defaultPolicyId then .error "cannot unregister the built-in default policy"
  else if startsWith policyId stdPolicyPrefix ∧ registry.entries.contains policyId then
    .error ("cannot unregister the built-in reserved policy '" ++ policyId
      ++ "' (RFC-MACP-0012 §2.2)")
  else if !registry.entries.contains policyId then
    .error ("policy '" ++ policyId ++ "' not found")
  else .ok { registry with entries := registry.entries.erase policyId }

end PolicyRegistry

/-! ### Edits -/

/-- The registries of a runtime. -/
structure Registries where
  modes : ModeRegistry
  policies : PolicyRegistry

/-- The calls that edit a registry. -/
inductive RegistryEdit where
  | registerPolicy (definition : PolicyDefinition)
  | unregisterPolicy (policyId : String)
  | registerMode (descriptor : ModeDescriptor)
  | unregisterMode (mode : String)
  | promoteMode (mode : String) (newName : Option String)

namespace Registries

variable (prost : Prost)

/-- The registries one call leaves: a refused call changes nothing. -/
def edit (r : Registries) : RegistryEdit → Registries
  | .registerPolicy definition =>
    { r with policies := (r.policies.register definition).toOption.getD r.policies }
  | .unregisterPolicy policyId =>
    { r with policies := (r.policies.unregister policyId).toOption.getD r.policies }
  | .registerMode descriptor =>
    { r with modes := (r.modes.registerExtension prost descriptor).toOption.getD r.modes }
  | .unregisterMode mode =>
    { r with modes := (r.modes.unregisterExtension mode).toOption.getD r.modes }
  | .promoteMode mode newName =>
    { r with modes := (r.modes.promoteMode mode newName).toOption.getD r.modes }

/-- The registries a sequence of calls leaves. -/
def edits (r : Registries) (calls : List RegistryEdit) : Registries :=
  calls.foldl (edit prost) r

end Registries

/-! ### What edits cannot change -/

section Frame

variable {prost : Prost}

/-- A result of an optional edit is the old registry or the edited one. -/
lemma toOption_getD_cases {α ε : Type} {P : α → Prop} {x : Except ε α} {a : α} (ha : P a)
    (hx : ∀ b, x = .ok b → P b) : P (x.toOption.getD a) := by
  cases x with
  | error e => exact ha
  | ok b => exact hx b rfl

variable {entry : ModeRegistration} {name : String} {registry registry' : ModeRegistry}
  {policy : PolicyDefinition}

lemma ModeRegistry.registerExtension_frame {descriptor : ModeDescriptor}
    (h : registry.registerExtension prost descriptor = .ok registry')
    (hentry : registry.getMode name = some entry) : registry'.getMode name = some entry := by
  unfold registerExtension at h
  split at h
  · cases h
  · split_ifs at h with hin
    cases h
    have hne : descriptor.mode ≠ name := by
      rintro rfl
      rw [getMode] at hentry
      rw [ExtTreeMap.contains_eq_isSome_getElem?, hentry] at hin
      exact hin rfl
    rw [getMode, ExtTreeMap.getElem?_insert, if_neg (by simpa using hne)]
    exact hentry

/-- Unregistering leaves a standards-track mode alone. -/
lemma ModeRegistry.unregisterExtension_frame {mode : String}
    (h : registry.unregisterExtension mode = .ok registry')
    (hentry : registry.getMode name = some entry) (hstd : entry.standardsTrack = true) :
    registry'.getMode name = some entry := by
  unfold unregisterExtension at h
  split at h
  · cases h
  · rename_i found hfound
    split_ifs at h with hbuiltin htrack
    cases h
    have hne : mode ≠ name := by
      rintro rfl
      cases hentry.symm.trans hfound
      exact htrack hstd
    rw [getMode, ExtTreeMap.getElem?_erase, if_neg (by simpa using hne)]
    exact hentry

/-- Promoting leaves a standards-track mode alone. -/
lemma ModeRegistry.promoteMode_frame {mode : String} {newName : Option String}
    (h : registry.promoteMode mode newName = .ok registry')
    (hentry : registry.getMode name = some entry) (hstd : entry.standardsTrack = true) :
    registry'.getMode name = some entry := by
  unfold promoteMode at h
  split at h
  · cases h
  · rename_i found hfound
    dsimp only at h
    split_ifs at h with htrack hreserved hempty htaken
    cases h
    have hne : mode ≠ name := by
      rintro rfl
      cases hentry.symm.trans hfound
      exact htrack hstd
    have hne' : newName.getD mode ≠ name := by
      intro heq
      refine htaken ⟨heq ▸ hne.symm, ?_⟩
      rw [heq, ExtTreeMap.contains_eq_isSome_getElem?]
      rw [getMode] at hentry
      rw [hentry]
      rfl
    rw [getMode, ExtTreeMap.getElem?_insert, if_neg (by simpa using hne'),
      ExtTreeMap.getElem?_erase, if_neg (by simpa using hne)]
    exact hentry

/-- Registering leaves every policy there is alone. -/
lemma PolicyRegistry.register_frame {registry registry' : PolicyRegistry}
    {definition : PolicyDefinition} {policyId : String}
    (h : registry.register definition = .ok registry')
    (hpolicy : registry.get policyId = some policy) : registry'.get policyId = some policy := by
  unfold register at h
  split at h
  · cases h
  · split_ifs at h with hin
    cases h
    have hne : definition.policyId ≠ policyId := by
      rintro rfl
      rw [get] at hpolicy
      rw [ExtTreeMap.contains_eq_isSome_getElem?, hpolicy] at hin
      exact hin rfl
    rw [get, ExtTreeMap.getElem?_insert, if_neg (by simpa using hne)]
    exact hpolicy

/-- Unregistering leaves a policy with a reserved id alone. -/
lemma PolicyRegistry.unregister_frame {registry registry' : PolicyRegistry}
    {target policyId : String} (h : registry.unregister target = .ok registry')
    (hpolicy : registry.get policyId = some policy) (hreserved : reservedPolicyId policyId = true) :
    registry'.get policyId = some policy := by
  unfold unregister at h
  split_ifs at h with hdefault hstd hin
  cases h
  have hne : target ≠ policyId := by
    rintro rfl
    rw [reservedPolicyId, Bool.or_eq_true, beq_iff_eq] at hreserved
    refine hstd ⟨hreserved.resolve_left hdefault, ?_⟩
    rw [get] at hpolicy
    rw [ExtTreeMap.contains_eq_isSome_getElem?, hpolicy]
    rfl
  rw [get, ExtTreeMap.getElem?_erase, if_neg (by simpa using hne)]
  exact hpolicy

namespace Registries

variable {entry : ModeRegistration} {r : Registries} {policy : PolicyDefinition} {policyId : String}

/-- One call leaves a standards-track mode alone. -/
lemma edit_standardsTrack {name : String} (hentry : r.modes.getMode name = some entry)
    (hstd : entry.standardsTrack = true) (call : RegistryEdit) :
    (r.edit prost call).modes.getMode name = some entry := by
  unfold edit
  cases call with
  | registerPolicy definition =>
    dsimp only
    exact hentry
  | unregisterPolicy policyId =>
    dsimp only
    exact hentry
  | registerMode descriptor =>
    dsimp only
    exact toOption_getD_cases (P := fun m : ModeRegistry => m.getMode name = some entry) hentry
      fun _ h => ModeRegistry.registerExtension_frame h hentry
  | unregisterMode mode =>
    dsimp only
    exact toOption_getD_cases (P := fun m : ModeRegistry => m.getMode name = some entry) hentry
      fun _ h => ModeRegistry.unregisterExtension_frame h hentry hstd
  | promoteMode mode newName =>
    dsimp only
    exact toOption_getD_cases (P := fun m : ModeRegistry => m.getMode name = some entry) hentry
      fun _ h => ModeRegistry.promoteMode_frame h hentry hstd

/-- One call leaves a policy with a reserved id alone. -/
lemma edit_reserved (hpolicy : r.policies.get policyId = some policy)
    (hreserved : reservedPolicyId policyId = true) (call : RegistryEdit) :
    (r.edit prost call).policies.get policyId = some policy := by
  unfold edit
  cases call with
  | registerPolicy definition =>
    dsimp only
    exact toOption_getD_cases (P := fun m : PolicyRegistry => m.get policyId = some policy)
      hpolicy fun _ h => PolicyRegistry.register_frame h hpolicy
  | unregisterPolicy target =>
    dsimp only
    exact toOption_getD_cases (P := fun m : PolicyRegistry => m.get policyId = some policy)
      hpolicy fun _ h => PolicyRegistry.unregister_frame h hpolicy hreserved
  | registerMode descriptor =>
    dsimp only
    exact hpolicy
  | unregisterMode mode =>
    dsimp only
    exact hpolicy
  | promoteMode mode newName =>
    dsimp only
    exact hpolicy

/-- **A standards-track mode is the same after any edits.** -/
theorem edits_standardsTrack {name : String} (hentry : r.modes.getMode name = some entry)
    (hstd : entry.standardsTrack = true) (calls : List RegistryEdit) :
    (r.edits prost calls).modes.getMode name = some entry := by
  induction calls generalizing r with
  | nil => exact hentry
  | cons call calls ih => exact ih (edit_standardsTrack hentry hstd call)

/-- **A policy with a reserved id is the same after any edits.** -/
theorem edits_reserved (hpolicy : r.policies.get policyId = some policy)
    (hreserved : reservedPolicyId policyId = true) (calls : List RegistryEdit) :
    (r.edits prost calls).policies.get policyId = some policy := by
  induction calls generalizing r with
  | nil => exact hpolicy
  | cons call calls ih => exact ih (edit_reserved hpolicy hreserved call)

end Registries

end Frame

end MacpRuntime
