import OpenstackAdmission.Manifest.CloudProfile
import OpenstackAdmission.Text.Quoted
import OpenstackAdmission.Versioned.Basic

/-!
# From profiles to versioned profiles

Conversion keeps everything but the classification of versions. It is refused where a capability has no
value, and where one is defined twice; `ConversionError` names the first such capability in the order of
images, versions and flavors, and then of definitions.

The conversion between the two forms of a profile (specification, second note of section 9).
-/

namespace OpenstackAdmission

inductive ConversionError where
  | duplicateDefinition (name : String)
  | emptyValues (name : String)
  deriving DecidableEq, Repr

def ConversionError.message : ConversionError → String
  | .duplicateDefinition name => "capability " ++ Text.quoted name ++ " is defined more than once"
  | .emptyValues name => "capability " ++ Text.quoted name ++ " does not declare any values"

namespace Versioned

/-- Values of the capability `name`, which has to have some. -/
def CapabilityValues.ofList? (name : String) (values : List String) :
    Except ConversionError CapabilityValues :=
  if values = [] then .error (.emptyValues name) else .ok ⟨values⟩

/-- Converts each item, up to the first that is refused. -/
def convertAll {α β : Type} (convert : α → Except ConversionError β) :
    List α → Except ConversionError (List β)
  | [] => .ok []
  | a :: rest =>
    match convert a with
    | .error e => .error e
    | .ok b => (convertAll convert rest).map (b :: ·)

/-- Capabilities, in the order of their names. -/
def Capabilities.ofProfile? (capabilities : OpenstackAdmission.Capabilities) :
    Except ConversionError Capabilities :=
  (convertAll
    (fun e => (CapabilityValues.ofList? e.1 e.2).map fun values => (e.1, values))
    capabilities.entries).map Dict.ofList

def MachineImageFlavor.ofProfile? (flavor : CapabilityFlavor) :
    Except ConversionError MachineImageFlavor :=
  (Capabilities.ofProfile? flavor.capabilities).map MachineImageFlavor.mk

def MachineImageVersion.ofProfile? (v : OpenstackAdmission.MachineImageVersion) :
    Except ConversionError MachineImageVersion :=
  (convertAll MachineImageFlavor.ofProfile? v.capabilityFlavors).map fun capabilityFlavors =>
    { version := v.version, architectures := v.architectures, capabilityFlavors }

def MachineImage.ofProfile? (image : OpenstackAdmission.MachineImage) :
    Except ConversionError MachineImage :=
  (convertAll MachineImageVersion.ofProfile? image.versions).map fun versions =>
    { name := image.name, versions }

def CapabilityDefinition.ofProfile? (d : OpenstackAdmission.CapabilityDefinition) :
    Except ConversionError CapabilityDefinition :=
  (CapabilityValues.ofList? d.name d.values).map fun values => { name := d.name, values }

/-- Definitions after those with the names `earlier`. A repeated name is refused before its values are
looked at. -/
def definitionsAfter? (earlier : List String) :
    List OpenstackAdmission.CapabilityDefinition →
      Except ConversionError (List CapabilityDefinition)
  | [] => .ok []
  | d :: rest =>
    if d.name ∈ earlier then .error (.duplicateDefinition d.name)
    else match CapabilityDefinition.ofProfile? d with
      | .error e => .error e
      | .ok converted => (definitionsAfter? (d.name :: earlier) rest).map (converted :: ·)

/-- All definitions of a profile. -/
def definitionsOfProfile? (definitions : List OpenstackAdmission.CapabilityDefinition) :
    Except ConversionError (List CapabilityDefinition) :=
  definitionsAfter? [] definitions

def CloudProfileSpec.ofProfile? (spec : OpenstackAdmission.CloudProfileSpec) :
    Except ConversionError CloudProfileSpec :=
  match convertAll MachineImage.ofProfile? spec.machineImages with
  | .error e => .error e
  | .ok machineImages =>
    (definitionsOfProfile? spec.machineCapabilities).map fun machineCapabilities =>
      { providerType := spec.providerType
        machineImages
        machineCapabilities
        providerConfig := spec.providerConfig }

end Versioned

end OpenstackAdmission
