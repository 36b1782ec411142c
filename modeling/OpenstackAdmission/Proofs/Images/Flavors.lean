import OpenstackAdmission.Proofs.Images.Sides
import OpenstackAdmission.Proofs.Versioned.Conversion
import OpenstackAdmission.Proofs.Versioned.Defaults

/-!
# Images by flavor

Where a profile has capabilities, its images match those of the provider by flavor, after defaults. As with
architectures, every version is compared with the first declaration of the other side; so where nothing is
found, both sides have the same flavors of a version that the provider maps, over all its declarations
(`offersFlavor_iff_of_mapped`). Where no parent maps anything, these are all versions
(`offersFlavor_iff_maps`).

Each flavor of the provider is then a flavor of the profile. Those never state a capability without values,
as they would not convert; hence those of the provider do not either (`values_ne_nil`).
-/

namespace OpenstackAdmission

/-- The flavors that a version is published with, after defaults; none stated means the one with every
value. -/
def MachineImageVersion.publishedFlavors (v : MachineImageVersion)
    (definitions : List Versioned.CapabilityDefinition) : List Versioned.Capabilities :=
  if v.capabilityFlavors = [] then [Versioned.everyValue definitions]
  else v.capabilityFlavors.map fun flavor =>
    (Capabilities.versioned flavor.capabilities).withDefaults definitions

/-- The profile offers a flavor of a version of an image. -/
def OffersFlavor (profile : List MachineImage) (definitions : List Versioned.CapabilityDefinition)
    (name version : String) (flavor : Versioned.Capabilities) : Prop :=
  ∃ d ∈ declarations profile, d.1 = name ∧ d.2.version = version ∧
    flavor ∈ d.2.publishedFlavors definitions

/-- The provider has a flavor of a version of an image. -/
def MapsFlavor (provider : List ProviderImage) (definitions : List Versioned.CapabilityDefinition)
    (name version : String) (flavor : Versioned.Capabilities) : Prop :=
  ∃ d ∈ declarations provider, d.1 = name ∧ d.2.version = version ∧
    ∃ mapped ∈ d.2.capabilityFlavors, mapped.capabilities.withDefaults definitions = flavor

/-- Defaults make the published flavors. -/
theorem MachineImageVersion.map_flavorsWithDefaults (v : MachineImageVersion)
    (definitions : List Versioned.CapabilityDefinition) :
    (Versioned.flavorsWithDefaults v.versioned.capabilityFlavors definitions).map
      Versioned.MachineImageFlavor.capabilities = v.publishedFlavors definitions := by
  unfold Versioned.flavorsWithDefaults MachineImageVersion.publishedFlavors
    MachineImageVersion.versioned
  -- no flavor at all stands for one that states nothing
  by_cases hnone : v.capabilityFlavors = []
  · rw [hnone]
    exact congrArg (fun flavor => [flavor]) (Versioned.Capabilities.withDefaults_empty definitions)
  · have hmap : v.capabilityFlavors.map CapabilityFlavor.versioned ≠ [] :=
      fun h => hnone (List.map_eq_nil_iff.mp h)
    rw [if_neg hmap, if_neg hnone, List.map_map, List.map_map]
    rfl

namespace ImageMatrix

variable {m : ImageMatrix} {profilePath providerPath : FieldPath}

/-- The flavors of a version convert exactly if none states a capability without values. -/
theorem profileFlavors_eq_ok_iff {v : MachineImageVersion} {flavors : List Versioned.Capabilities} :
    m.profileFlavors v = .ok flavors ↔
      v.NonemptyValues ∧ v.publishedFlavors m.definitions = flavors := by
  rw [← MachineImageVersion.map_flavorsWithDefaults]
  exact (Versioned.converts_version.map fun v =>
    (Versioned.flavorsWithDefaults v.capabilityFlavors m.definitions).map
      Versioned.MachineImageFlavor.capabilities) v flavors

theorem mem_providerFlavors {v : ProviderImageVersion} {flavor : Versioned.Capabilities} :
    flavor ∈ m.providerFlavors v ↔
      ∃ mapped ∈ v.capabilityFlavors, mapped.capabilities.withDefaults m.definitions = flavor :=
  List.mem_map

/-- A published flavor has values under every name that it has. -/
theorem values_ne_nil_of_published {v : MachineImageVersion} (hv : v.NonemptyValues)
    {definitions : List Versioned.CapabilityDefinition}
    (hdefined : ∀ d ∈ definitions, d.values.values ≠ []) {flavor : Versioned.Capabilities}
    (hflavor : flavor ∈ v.publishedFlavors definitions) {name : String}
    {values : Versioned.CapabilityValues} (hvalues : flavor.find? name = some values) :
    values.values ≠ [] := by
  unfold MachineImageVersion.publishedFlavors at hflavor
  split at hflavor
  · obtain rfl := List.mem_singleton.mp hflavor
    rw [← Versioned.Capabilities.withDefaults_empty] at hvalues
    exact Versioned.Capabilities.values_ne_nil_of_find?_withDefaults
      (fun _ he => absurd he List.not_mem_nil) hdefined hvalues
  · obtain ⟨stated, hstated, rfl⟩ := List.mem_map.mp hflavor
    refine Versioned.Capabilities.values_ne_nil_of_find?_withDefaults ?_ hdefined hvalues
    intro e he
    obtain ⟨own, hown, rfl⟩ := List.mem_map.mp he
    exact hv stated hstated own hown

/-! ## Where nothing is found -/

section Found

variable (hsome : m.definitions ≠ []) (h : m.check profilePath providerPath = [])

include hsome h

/-- A version of the profile that the provider maps converts, and the first declaration of the provider has its
flavors. -/
theorem flavors_covered_of_mapped {d : String × MachineImageVersion}
    (hd : d ∈ declarations m.profileImages) (hmapped : Declares m.providerImages d.1 d.2.version) :
    d.2.NonemptyValues ∧ ∃ provided, firstDeclared? m.providerImages d.1 d.2.version = some provided ∧
      ∀ flavor ∈ d.2.publishedFlavors m.definitions, flavor ∈ m.providerFlavors provided := by
  obtain ⟨provided, path, hfirst, hcovered⟩ := covered_of_mapped h hd hmapped
  obtain ⟨flavors, hflavors, hall⟩ := (checkCovered_eq_nil_iff hsome).mp hcovered
  obtain ⟨hvalues, rfl⟩ := profileFlavors_eq_ok_iff.mp hflavors
  exact ⟨hvalues, provided, hfirst, hall⟩

/-- The first declaration of the profile has the flavors of a declared version of the provider. It converts, as
every declaration of a mapped version does, so the comparison is not skipped. -/
theorem flavors_within {d : String × ProviderImageVersion}
    (hd : d ∈ declarations m.providerImages) :
    ∃ offered, firstDeclared? m.profileImages d.1 d.2.version = some offered ∧
      offered.NonemptyValues ∧
        ∀ flavor ∈ m.providerFlavors d.2, flavor ∈ offered.publishedFlavors m.definitions := by
  obtain ⟨offered, path, hfirst, hwithin⟩ := within_of_check h hd
  obtain ⟨hmem, hversion⟩ := of_firstDeclared? hfirst
  have hmapped : Declares m.providerImages d.1 offered.version := ⟨d, hd, rfl, hversion.symm⟩
  have hvalues : offered.NonemptyValues := (flavors_covered_of_mapped hsome h hmem hmapped).1
  exact ⟨offered, hfirst, hvalues, (checkExcess_eq_nil_iff hsome).mp hwithin _
    (profileFlavors_eq_ok_iff.mpr ⟨hvalues, rfl⟩)⟩

/-- Both sides have the same flavors of a mapped version: each goes through the first declaration of the
other. -/
theorem offersFlavor_iff_of_mapped {name version : String}
    (hmapped : Declares m.providerImages name version) (flavor : Versioned.Capabilities) :
    OffersFlavor m.profileImages m.definitions name version flavor ↔
      MapsFlavor m.providerImages m.definitions name version flavor := by
  refine exists_declared_iff
    (fun v : MachineImageVersion => flavor ∈ v.publishedFlavors m.definitions)
    (fun v : ProviderImageVersion => ∃ mapped ∈ v.capabilityFlavors,
      mapped.capabilities.withDefaults m.definitions = flavor) ?_ ?_
  · intro d hd hname hversion hflavor
    subst hname hversion
    obtain ⟨-, provided, hfirst, hall⟩ := flavors_covered_of_mapped hsome h hd hmapped
    exact ⟨provided, hfirst, mem_providerFlavors.mp (hall flavor hflavor)⟩
  · intro d hd hname hversion hflavor
    subst hname hversion
    obtain ⟨offered, hfirst, -, hall⟩ := flavors_within hsome h hd
    exact ⟨offered, hfirst, hall flavor (mem_providerFlavors.mpr hflavor)⟩

/-- No flavor of the provider states a defined capability without values: with defaults it would keep that, and
the profile has no such flavor. -/
theorem values_ne_nil (hdefined : ∀ d ∈ m.definitions, d.values.values ≠ [])
    {d : String × ProviderImageVersion} (hd : d ∈ declarations m.providerImages)
    {flavor : ProviderFlavor} (hflavor : flavor ∈ d.2.capabilityFlavors)
    {definition : Versioned.CapabilityDefinition} (hmem : definition ∈ m.definitions)
    {values : Versioned.CapabilityValues}
    (hvalues : flavor.capabilities.find? definition.name = some values) : values.values ≠ [] := by
  obtain ⟨offered, -, hoffered, hall⟩ := flavors_within hsome h hd
  have hpublished := hall _ (mem_providerFlavors.mpr ⟨flavor, hflavor, rfl⟩)
  exact values_ne_nil_of_published hoffered hdefined hpublished
    (Versioned.Capabilities.find?_withDefaults_of_stated hmem hvalues)

end Found

/-! ## Where no parent maps anything -/

section NoParent

variable (hsome : m.definitions ≠ []) (hparent : m.parentImages = [])
  (h : m.check profilePath providerPath = [])

include hsome hparent h

/-- Both sides declare the same versions. -/
theorem declares_iff (name version : String) :
    Declares m.profileImages name version ↔ Declares m.providerImages name version := by
  constructor
  · intro hdeclared
    obtain ⟨d, hd, rfl, rfl⟩ := hdeclared
    rcases covered_of_check h hd with ⟨provided, path, hfirst, -⟩ | ⟨-, hinherited⟩
    · exact declares_of_firstDeclared? hfirst
    · rw [hparent] at hinherited
      exact absurd hinherited not_declares_nil
  · intro hmapped
    obtain ⟨d, hd, rfl, rfl⟩ := hmapped
    obtain ⟨offered, hfirst, -⟩ := flavors_within hsome h hd
    exact declares_of_firstDeclared? hfirst

/-- A declared version of the profile converts, and the first declaration of the provider has its flavors. -/
theorem flavors_covered {d : String × MachineImageVersion} (hd : d ∈ declarations m.profileImages) :
    d.2.NonemptyValues ∧ ∃ provided, firstDeclared? m.providerImages d.1 d.2.version = some provided ∧
      ∀ flavor ∈ d.2.publishedFlavors m.definitions, flavor ∈ m.providerFlavors provided :=
  flavors_covered_of_mapped hsome h hd
    ((declares_iff hsome hparent h _ _).mp (declares_of_mem hd))

/-- Both sides have the same flavors: a version that neither side declares has none. -/
theorem offersFlavor_iff_maps (name version : String) (flavor : Versioned.Capabilities) :
    OffersFlavor m.profileImages m.definitions name version flavor ↔
      MapsFlavor m.providerImages m.definitions name version flavor := by
  by_cases hmapped : Declares m.providerImages name version
  · exact offersFlavor_iff_of_mapped hsome h hmapped flavor
  · constructor
    · intro hoffers
      obtain ⟨d, hd, hname, hversion, -⟩ := hoffers
      exact absurd ((declares_iff hsome hparent h _ _).mp ⟨d, hd, hname, hversion⟩) hmapped
    · intro hmaps
      obtain ⟨d, hd, hname, hversion, -⟩ := hmaps
      exact absurd ⟨d, hd, hname, hversion⟩ hmapped

end NoParent

end ImageMatrix

end OpenstackAdmission
