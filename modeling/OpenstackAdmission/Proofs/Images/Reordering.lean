import Mathlib.Data.List.Basic
import Mathlib.Logic.Function.Basic
import OpenstackAdmission.Config.CloudProfile
import OpenstackAdmission.Proofs.Dict.Values
import OpenstackAdmission.Proofs.Images.Flavors

/-!
# Values in another order

Flavors and definitions list the values of a capability. A `Reordering` gives each list another order: one for the
lists of definitions, and one for the lists that the flavors of a version state. The new order depends on the list
only, so in a version equal lists stay equal.

> `publishedFlavors_reordered`: defaults and orders commute, if a list that a version takes from a definition has
the same new order in both (`FollowsDefinitions`).

Nothing but the lists changes: images and versions are found as before. Where different lists stay different, the
old order can be restored (`exists_undoes`).
-/

namespace OpenstackAdmission

/-! ## Orders at every level -/

def Versioned.Capabilities.reordered (order : String → List String → List String)
    (capabilities : Versioned.Capabilities) : Versioned.Capabilities :=
  capabilities.mapNamed fun name v => ⟨order name v.values⟩

def Versioned.CapabilityDefinition.reordered (order : String → List String → List String)
    (d : Versioned.CapabilityDefinition) : Versioned.CapabilityDefinition :=
  { d with values := ⟨order d.name d.values.values⟩ }

def CapabilityDefinition.reordered (order : String → List String → List String)
    (d : CapabilityDefinition) : CapabilityDefinition :=
  { d with values := order d.name d.values }

def CapabilityFlavor.reordered (order : String → List String → List String)
    (flavor : CapabilityFlavor) : CapabilityFlavor :=
  { capabilities := flavor.capabilities.mapNamed order }

def MachineImageVersion.reordered (order : String → String → List String → List String)
    (v : MachineImageVersion) : MachineImageVersion :=
  { v with capabilityFlavors := v.capabilityFlavors.map (·.reordered (order v.version)) }

def MachineImage.reordered (order : String → String → String → List String → List String)
    (image : MachineImage) : MachineImage :=
  { image with versions := image.versions.map (·.reordered (order image.name)) }

def ProviderFlavor.reordered (order : String → List String → List String) (flavor : ProviderFlavor) :
    ProviderFlavor :=
  { flavor with capabilities := flavor.capabilities.reordered order }

def ProviderImageVersion.reordered (order : String → String → List String → List String)
    (v : ProviderImageVersion) : ProviderImageVersion :=
  { v with capabilityFlavors := v.capabilityFlavors.map (·.reordered (order v.version)) }

def ProviderImage.reordered (order : String → String → String → List String → List String)
    (image : ProviderImage) : ProviderImage :=
  { image with versions := image.versions.map (·.reordered (order image.name)) }

def CloudProfileConfig.reordered (order : String → String → String → List String → List String)
    (c : CloudProfileConfig) : CloudProfileConfig :=
  { c with machineImages := c.machineImages.map (·.reordered order) }

/-- Other orders for the lists of values that flavors state and that definitions have. -/
structure Reordering where
  /-- The order of a list that a flavor of a version of an image states for a capability. -/
  stated (image version name : String) (values : List String) : List String
  /-- The order of a list that a definition has for its capability. -/
  defined (name : String) (values : List String) : List String
  stated_perm : ∀ image version name values, (stated image version name values).Perm values
  defined_perm : ∀ name values, (defined name values).Perm values

/-- A flavor of the version takes the values of the capability from the definition. -/
def MachineImageVersion.LeavesOut (v : MachineImageVersion) (name : String) : Prop :=
  v.capabilityFlavors = [] ∨ ∃ flavor ∈ v.capabilityFlavors, flavor.capabilities.find? name = none

/-- A flavor of the version takes the values of the capability from the definition. -/
def ProviderImageVersion.LeavesOut (v : ProviderImageVersion) (name : String) : Prop :=
  ∃ flavor ∈ v.capabilityFlavors, flavor.capabilities.find? name = none

namespace Reordering

/-- Where a version leaves a capability out, it gives the list of the definition the same order as the definition
does. -/
structure FollowsDefinitions (r : Reordering) (profile : List MachineImage)
    (provider : List ProviderImage) (definitions : List Versioned.CapabilityDefinition) : Prop where
  ofProfile : ∀ d ∈ declarations profile, ∀ definition ∈ definitions, d.2.LeavesOut definition.name →
    r.stated d.1 d.2.version definition.name definition.values.values =
      r.defined definition.name definition.values.values
  ofProvider : ∀ d ∈ declarations provider, ∀ definition ∈ definitions,
    d.2.LeavesOut definition.name →
      r.stated d.1 d.2.version definition.name definition.values.values =
        r.defined definition.name definition.values.values

/-- Different lists stay different. -/
structure OneToOne (r : Reordering) : Prop where
  stated : ∀ image version name, Function.Injective (r.stated image version name)
  defined : ∀ name, Function.Injective (r.defined name)

end Reordering

/-! ## What does not change -/

section Unchanged

variable {r : Reordering} {order : String → List String → List String} {name version : String}

theorem CapabilityDefinition.map_versioned_reordered (definitions : List CapabilityDefinition) :
    (definitions.map (·.reordered order)).map versioned =
      (definitions.map versioned).map (·.reordered order) := by
  rw [List.map_map, List.map_map]
  rfl

/-- Values of a flavor may be put in another order before or after the conversion. -/
theorem CapabilityFlavor.versioned_reordered (flavor : CapabilityFlavor) :
    Capabilities.versioned (flavor.reordered order).capabilities =
      Versioned.Capabilities.reordered order (Capabilities.versioned flavor.capabilities) := by
  apply Dict.eq_of_entries_eq
  show (flavor.capabilities.entries.map _).map _ = (flavor.capabilities.entries.map _).map _
  rw [List.map_map, List.map_map]
  rfl

theorem declarations_profile_reordered (images : List MachineImage) :
    declarations (images.map (·.reordered r.stated)) =
      (declarations images).map fun d => (d.1, d.2.reordered (r.stated d.1)) :=
  declarations_map (MachineImage.reordered r.stated)
    (fun name => MachineImageVersion.reordered (r.stated name)) (fun _ => rfl) (fun _ => rfl) images

theorem declarations_provider_reordered (images : List ProviderImage) :
    declarations (images.map (·.reordered r.stated)) =
      (declarations images).map fun d => (d.1, d.2.reordered (r.stated d.1)) :=
  declarations_map (ProviderImage.reordered r.stated)
    (fun name => ProviderImageVersion.reordered (r.stated name)) (fun _ => rfl) (fun _ => rfl) images

/-- The same versions are found among images with their values in another order. -/
theorem findVersion?_profile_reordered (images : List MachineImage) :
    findVersion? (images.map (·.reordered r.stated)) name version =
      (findVersion? images name version).map (·.reordered (r.stated name)) :=
  findVersion?_map (MachineImage.reordered r.stated)
    (fun name => MachineImageVersion.reordered (r.stated name)) (fun _ => rfl) (fun _ => rfl)
    (fun _ _ => rfl) images name version

theorem findVersion?_provider_reordered (images : List ProviderImage) :
    findVersion? (images.map (·.reordered r.stated)) name version =
      (findVersion? images name version).map (·.reordered (r.stated name)) :=
  findVersion?_map (ProviderImage.reordered r.stated)
    (fun name => ProviderImageVersion.reordered (r.stated name)) (fun _ => rfl) (fun _ => rfl)
    (fun _ _ => rfl) images name version

theorem findImage?_provider_reordered (images : List ProviderImage) :
    findImage? (images.map (·.reordered r.stated)) name =
      (findImage? images name).map (·.reordered r.stated) :=
  findImage?_map (ProviderImage.reordered r.stated) (fun _ => rfl) images name

/-- A permutation of a list is empty exactly if the list is. -/
theorem MachineImageVersion.nonemptyValues_reordered_iff
    {order : String → String → List String → List String}
    (hperm : ∀ version name values, (order version name values).Perm values)
    {v : MachineImageVersion} : (v.reordered order).NonemptyValues ↔ v.NonemptyValues := by
  have hempty (name : String) (values : List String) :
      order v.version name values ≠ [] ↔ values ≠ [] := by
    rw [Ne, Ne, ← List.length_eq_zero_iff, ← List.length_eq_zero_iff, (hperm _ _ _).length_eq]
  unfold NonemptyValues Capabilities.NonemptyValues
  show (∀ flavor ∈ v.capabilityFlavors.map _, _) ↔ _
  rw [List.forall_mem_map]
  refine forall₂_congr fun flavor _ => ?_
  show (∀ e ∈ flavor.capabilities.entries.map _, _) ↔ _
  rw [List.forall_mem_map]
  exact forall₂_congr fun e _ => hempty e.1 e.2

theorem ProviderFlavor.capabilities_reordered (flavor : ProviderFlavor) :
    (flavor.reordered order).capabilities =
      flavor.capabilities.mapNamed fun name v => ⟨order name v.values⟩ := rfl

/-- Flavors with other values leave out the same names. -/
theorem exists_leavesOut_map_iff {φ α : Type} (capabilities : φ → Dict α) (onFlavor : φ → φ)
    {f : String → α → α} (h : ∀ flavor, capabilities (onFlavor flavor) = (capabilities flavor).mapNamed f)
    {flavors : List φ} :
    (∃ flavor ∈ flavors.map onFlavor, (capabilities flavor).find? name = none) ↔
      ∃ flavor ∈ flavors, (capabilities flavor).find? name = none := by
  simp only [List.mem_map, exists_exists_and_eq_and, h, Dict.find?_mapNamed, Option.map_eq_none_iff]

theorem MachineImageVersion.leavesOut_reordered_iff
    {order : String → String → List String → List String} {v : MachineImageVersion} :
    (v.reordered order).LeavesOut name ↔ v.LeavesOut name :=
  or_congr List.map_eq_nil_iff
    (exists_leavesOut_map_iff CapabilityFlavor.capabilities (CapabilityFlavor.reordered (order v.version))
      fun _ => rfl)

theorem ProviderImageVersion.leavesOut_reordered_iff
    {order : String → String → List String → List String} {v : ProviderImageVersion} :
    (v.reordered order).LeavesOut name ↔ v.LeavesOut name :=
  exists_leavesOut_map_iff ProviderFlavor.capabilities (ProviderFlavor.reordered (order v.version))
    fun flavor => ProviderFlavor.capabilities_reordered flavor

end Unchanged

/-! ## Defaults -/

section Defaults

variable {order defined : String → List String → List String}
  {definitions : List Versioned.CapabilityDefinition}

/-- Defaults are filled in from the definitions. Where they are, the order of the version has to do the same
with the list as the order of the definitions. -/
theorem Versioned.Capabilities.withDefaults_reordered {capabilities : Versioned.Capabilities}
    (h : ∀ d ∈ definitions, capabilities.find? d.name = none →
      order d.name d.values.values = defined d.name d.values.values) :
    (capabilities.reordered order).withDefaults (definitions.map (·.reordered defined)) =
      (capabilities.withDefaults definitions).reordered order := by
  have hvalues (d : Versioned.CapabilityDefinition) (hd : d ∈ definitions) :
      ((capabilities.reordered order).find? d.name).getD (d.reordered defined).values =
        CapabilityValues.mk (order d.name ((capabilities.find? d.name).getD d.values).values) := by
    unfold reordered
    rw [Dict.find?_mapNamed]
    cases hfind : capabilities.find? d.name with
    | none => exact congrArg CapabilityValues.mk (h d hd hfind).symm
    | some values => rfl
  unfold withDefaults
  rw [List.map_map]
  show _ = Dict.mapNamed _ (Dict.ofList _)
  rw [Dict.mapNamed_ofList, List.map_map]
  exact congrArg Dict.ofList
    (List.map_congr_left fun d hd => congrArg (Prod.mk d.name) (hvalues d hd))

/-- The flavors that a version is published with, in the order of the version. -/
theorem MachineImageVersion.publishedFlavors_reordered
    {order : String → String → List String → List String} {v : MachineImageVersion}
    (h : ∀ d ∈ definitions, v.LeavesOut d.name →
      order v.version d.name d.values.values = defined d.name d.values.values) :
    (v.reordered order).publishedFlavors (definitions.map (·.reordered defined)) =
      (v.publishedFlavors definitions).map (·.reordered (order v.version)) := by
  -- a version without flavors publishes one, in which every value is filled in from the definitions
  unfold publishedFlavors
  by_cases hnone : v.capabilityFlavors = []
  · have hnone' : (v.reordered order).capabilityFlavors = [] := List.map_eq_nil_iff.mpr hnone
    rw [if_pos hnone, if_pos hnone', List.map_singleton, ← Versioned.Capabilities.withDefaults_empty,
      ← Versioned.Capabilities.withDefaults_empty,
      ← Versioned.Capabilities.withDefaults_reordered fun d hd _ => h d hd (.inl hnone)]
    rfl
  · have hsome' : (v.reordered order).capabilityFlavors ≠ [] :=
      fun hnil => hnone (List.map_eq_nil_iff.mp hnil)
    rw [if_neg hnone, if_neg hsome', List.map_map]
    show (v.capabilityFlavors.map _).map _ = _
    rw [List.map_map]
    refine List.map_congr_left fun flavor hflavor => ?_
    simp only [Function.comp_apply, CapabilityFlavor.versioned_reordered]
    refine Versioned.Capabilities.withDefaults_reordered fun d hd hleft => ?_
    have hfind : (Capabilities.versioned flavor.capabilities).find? d.name =
        (flavor.capabilities.find? d.name).map Versioned.CapabilityValues.mk :=
      Dict.find?_mapNamed (f := fun _ => Versioned.CapabilityValues.mk) flavor.capabilities d.name
    rw [hfind, Option.map_eq_none_iff] at hleft
    exact h d hd (.inr ⟨flavor, hflavor, hleft⟩)

end Defaults

/-! ## Putting the lists back -/

section Undo

open Function (Injective LeftInverse)

section Flavor

variable {order undo : String → List String → List String}
  (h : ∀ name, LeftInverse (undo name) (order name))

include h

theorem CapabilityDefinition.reordered_leftInverse :
    LeftInverse (reordered undo) (reordered order) :=
  fun d => congrArg (fun values => { d with values }) (h d.name d.values)

theorem Versioned.CapabilityDefinition.reordered_leftInverse :
    LeftInverse (reordered undo) (reordered order) :=
  fun d => congrArg (fun values => { d with values := ⟨values⟩ }) (h d.name d.values.values)

theorem CapabilityFlavor.reordered_leftInverse : LeftInverse (reordered undo) (reordered order) :=
  fun flavor => congrArg CapabilityFlavor.mk (Dict.mapNamed_leftInverse h flavor.capabilities)

theorem ProviderFlavor.reordered_leftInverse : LeftInverse (reordered undo) (reordered order) := by
  have hvalues (name : String) :
      LeftInverse (fun v : Versioned.CapabilityValues => (⟨undo name v.values⟩ : Versioned.CapabilityValues))
        fun v => ⟨order name v.values⟩ :=
    fun v => congrArg Versioned.CapabilityValues.mk (h name v.values)
  intro flavor
  exact congrArg (fun capabilities => { flavor with capabilities })
    (Dict.mapNamed_leftInverse hvalues flavor.capabilities)

end Flavor

section Version

variable {order undo : String → String → List String → List String}
  (h : ∀ version name, LeftInverse (undo version name) (order version name))

include h

theorem MachineImageVersion.reordered_leftInverse : LeftInverse (reordered undo) (reordered order) :=
  fun v => congrArg (fun capabilityFlavors => { v with capabilityFlavors })
    ((CapabilityFlavor.reordered_leftInverse (h v.version)).list_map v.capabilityFlavors)

theorem ProviderImageVersion.reordered_leftInverse : LeftInverse (reordered undo) (reordered order) :=
  fun v => congrArg (fun capabilityFlavors => { v with capabilityFlavors })
    ((ProviderFlavor.reordered_leftInverse (h v.version)).list_map v.capabilityFlavors)

end Version

section Image

variable {order undo : String → String → String → List String → List String}
  (h : ∀ image version name, LeftInverse (undo image version name) (order image version name))

include h

theorem MachineImage.reordered_leftInverse : LeftInverse (reordered undo) (reordered order) :=
  fun image => congrArg (fun versions => { image with versions })
    ((MachineImageVersion.reordered_leftInverse (h image.name)).list_map image.versions)

theorem ProviderImage.reordered_leftInverse : LeftInverse (reordered undo) (reordered order) :=
  fun image => congrArg (fun versions => { image with versions })
    ((ProviderImageVersion.reordered_leftInverse (h image.name)).list_map image.versions)

theorem CloudProfileConfig.reordered_leftInverse : LeftInverse (reordered undo) (reordered order) :=
  fun c => congrArg (fun machineImages => { c with machineImages })
    ((ProviderImage.reordered_leftInverse h).list_map c.machineImages)

end Image

namespace Reordering

/-- Puts every list back. -/
structure Undoes (back r : Reordering) : Prop where
  stated : ∀ image version name,
    LeftInverse (back.stated image version name) (r.stated image version name)
  defined : ∀ name, LeftInverse (back.defined name) (r.defined name)

variable {r back : Reordering}

/-- A list that is the new order of no list may stay as it is. -/
theorem exists_perm_leftInverse {f : List String → List String} (hperm : ∀ values, (f values).Perm values)
    (hinjective : Injective f) :
    ∃ g : List String → List String, (∀ values, (g values).Perm values) ∧ LeftInverse g f := by
  refine ⟨Function.extend f id id, fun values => ?_, fun values => hinjective.extend_apply id id values⟩
  by_cases hvalues : ∃ original, f original = values
  · obtain ⟨original, rfl⟩ := hvalues
    rw [hinjective.extend_apply]
    exact (hperm original).symm
  · rw [Function.extend_apply' id id values hvalues]
    exact List.Perm.refl values

/-- Where different lists stay different, there is a way back for each of them, which is an order of its
values again. -/
theorem OneToOne.exists_undoes (h : r.OneToOne) : ∃ back : Reordering, back.Undoes r := by
  choose stated hstatedPerm hstated using fun image version name =>
    exists_perm_leftInverse (r.stated_perm image version name) (h.stated image version name)
  choose defined hdefinedPerm hdefined using fun name =>
    exists_perm_leftInverse (r.defined_perm name) (h.defined name)
  exact ⟨⟨stated, defined, hstatedPerm, hdefinedPerm⟩, ⟨hstated, hdefined⟩⟩

/-- The way back follows the definitions too. -/
theorem FollowsDefinitions.of_undoes (hundo : back.Undoes r) {profile : List MachineImage}
    {provider : List ProviderImage} {definitions : List Versioned.CapabilityDefinition}
    (h : r.FollowsDefinitions profile provider definitions) :
    back.FollowsDefinitions (profile.map (·.reordered r.stated)) (provider.map (·.reordered r.stated))
      (definitions.map (·.reordered r.defined)) := by
  have hback {image version name : String} {values : List String}
      (hsame : r.stated image version name values = r.defined name values) :
      back.stated image version name (r.defined name values) =
        back.defined name (r.defined name values) := by
    rw [hundo.defined, ← hsame, hundo.stated]
  constructor
  · rw [declarations_profile_reordered, List.forall_mem_map]
    intro d hd
    rw [List.forall_mem_map]
    intro definition hdefinition hleft
    exact hback (h.ofProfile d hd definition hdefinition
      (MachineImageVersion.leavesOut_reordered_iff.mp hleft))
  · rw [declarations_provider_reordered, List.forall_mem_map]
    intro d hd
    rw [List.forall_mem_map]
    intro definition hdefinition hleft
    exact hback (h.ofProvider d hd definition hdefinition
      (ProviderImageVersion.leavesOut_reordered_iff.mp hleft))

end Reordering

end Undo

end OpenstackAdmission
