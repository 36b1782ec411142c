import OpenstackAdmission.Proofs.Dict.Values
import OpenstackAdmission.Proofs.Versioned.Conversion

/-!
# The way back

A converted profile can be read as a profile again. `ofVersioned` does this at every level; the classifications of the
versions are gone, and all else is as it was.

> `CloudProfileSpec.ofVersioned_versioned`: there and back, a specification loses its classifications only.
-/

namespace OpenstackAdmission

/-- The capabilities as a profile states them. -/
def Capabilities.ofVersioned (capabilities : Versioned.Capabilities) : Capabilities :=
  capabilities.map Versioned.CapabilityValues.values

def CapabilityDefinition.ofVersioned (d : Versioned.CapabilityDefinition) : CapabilityDefinition where
  name := d.name
  values := d.values.values

def CapabilityFlavor.ofVersioned (flavor : Versioned.MachineImageFlavor) : CapabilityFlavor where
  capabilities := Capabilities.ofVersioned flavor.capabilities

def MachineImageVersion.ofVersioned (v : Versioned.MachineImageVersion) : MachineImageVersion where
  version := v.version
  classification := none
  architectures := v.architectures
  capabilityFlavors := v.capabilityFlavors.map CapabilityFlavor.ofVersioned

def MachineImage.ofVersioned (image : Versioned.MachineImage) : MachineImage where
  name := image.name
  versions := image.versions.map MachineImageVersion.ofVersioned

def CloudProfileSpec.ofVersioned (spec : Versioned.CloudProfileSpec) : CloudProfileSpec where
  providerType := spec.providerType
  machineImages := spec.machineImages.map MachineImage.ofVersioned
  machineCapabilities := spec.machineCapabilities.map CapabilityDefinition.ofVersioned
  providerConfig := spec.providerConfig

def MachineImageVersion.unclassified (v : MachineImageVersion) : MachineImageVersion :=
  { v with classification := none }

def MachineImage.unclassified (image : MachineImage) : MachineImage :=
  { image with versions := image.versions.map MachineImageVersion.unclassified }

/-- The specification without the classifications of its versions. -/
def CloudProfileSpec.unclassified (spec : CloudProfileSpec) : CloudProfileSpec :=
  { spec with machineImages := spec.machineImages.map MachineImage.unclassified }

theorem Capabilities.ofVersioned_versioned (capabilities : Capabilities) :
    ofVersioned (versioned capabilities) = capabilities := by
  apply Dict.eq_of_entries_eq
  show (capabilities.entries.map _).map _ = capabilities.entries
  rw [List.map_map]
  exact List.map_id _

theorem Capabilities.versioned_ofVersioned (capabilities : Versioned.Capabilities) :
    versioned (ofVersioned capabilities) = capabilities := by
  apply Dict.eq_of_entries_eq
  show (capabilities.entries.map _).map _ = capabilities.entries
  rw [List.map_map]
  exact List.map_id _

theorem CapabilityFlavor.ofVersioned_versioned (flavor : CapabilityFlavor) :
    ofVersioned flavor.versioned = flavor :=
  congrArg CapabilityFlavor.mk (Capabilities.ofVersioned_versioned flavor.capabilities)

theorem CapabilityFlavor.versioned_ofVersioned (flavor : Versioned.MachineImageFlavor) :
    (ofVersioned flavor).versioned = flavor :=
  congrArg Versioned.MachineImageFlavor.mk (Capabilities.versioned_ofVersioned flavor.capabilities)

/-- A version that is converted back has lost its classification, for which the other form has no place. -/
theorem MachineImageVersion.ofVersioned_versioned (v : MachineImageVersion) :
    ofVersioned v.versioned = v.unclassified := by
  unfold ofVersioned versioned unclassified
  simp only [List.map_map, Function.comp_def, CapabilityFlavor.ofVersioned_versioned, List.map_id']

theorem MachineImage.ofVersioned_versioned (image : MachineImage) :
    ofVersioned image.versioned = image.unclassified := by
  unfold ofVersioned versioned unclassified
  simp only [List.map_map, Function.comp_def, MachineImageVersion.ofVersioned_versioned]

theorem CapabilityDefinition.ofVersioned_versioned (d : CapabilityDefinition) :
    ofVersioned d.versioned = d := rfl

/-- **Nothing but the classifications is lost.** -/
theorem CloudProfileSpec.ofVersioned_versioned (spec : CloudProfileSpec) :
    ofVersioned spec.versioned = spec.unclassified := by
  unfold ofVersioned versioned unclassified
  simp only [List.map_map, Function.comp_def, MachineImage.ofVersioned_versioned,
    CapabilityDefinition.ofVersioned_versioned, List.map_id']

end OpenstackAdmission
