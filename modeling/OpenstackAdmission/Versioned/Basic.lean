import OpenstackAdmission.Codec.Record

/-!
# Versioned profiles

The form in which a cloud profile stands as the parent of namespaced ones. Capabilities are compared in
this form: `Versioned.Capabilities` gives each name the values that are supported.
-/

namespace OpenstackAdmission.Versioned

/-- The values of a capability. Conversion makes non-empty ones only; reading takes any list. -/
structure CapabilityValues where
  values : List String
  deriving DecidableEq

instance : Codec CapabilityValues where
  encode v := encode v.values
  decode json := (decode json).map CapabilityValues.mk

/-- One of the values. -/
def CapabilityValues.contains (v : CapabilityValues) (value : String) : Bool :=
  v.values.contains value

/-- Names of capabilities with their values. -/
abbrev Capabilities := Dict CapabilityValues

structure CapabilityDefinition where
  name : String
  values : CapabilityValues
  deriving DecidableEq

instance : Codec CapabilityDefinition where
  encode d := .record [Codec.field "name" d.name, Codec.field "values" d.values]
  decode := Codec.decodeRecord "CapabilityDefinition"
    (CapabilityDefinition.mk <$> Fields.required "name" <*> Fields.required "values")

structure MachineImageFlavor where
  capabilities : Capabilities
  deriving DecidableEq

instance : Codec MachineImageFlavor where
  encode f := .record [Codec.field "capabilities" f.capabilities]
  decode := Codec.decodeRecord "MachineImageFlavor"
    (MachineImageFlavor.mk <$> Fields.defaulted "capabilities" Dict.empty)

structure MachineImageVersion where
  version : String
  architectures : List String
  capabilityFlavors : List MachineImageFlavor
  deriving DecidableEq

instance : Codec MachineImageVersion where
  encode v := .record [
    Codec.field "version" v.version,
    Codec.field "architectures" v.architectures,
    Codec.field "capabilityFlavors" v.capabilityFlavors]
  decode := Codec.decodeRecord "MachineImageVersion"
    (MachineImageVersion.mk <$> Fields.required "version"
      <*> Fields.defaulted "architectures" [] <*> Fields.defaulted "capabilityFlavors" [])

structure MachineImage where
  name : String
  versions : List MachineImageVersion
  deriving DecidableEq

instance : Codec MachineImage where
  encode i := .record [Codec.field "name" i.name, Codec.field "versions" i.versions]
  decode := Codec.decodeRecord "MachineImage"
    (MachineImage.mk <$> Fields.required "name" <*> Fields.defaulted "versions" [])

structure CloudProfileSpec where
  providerType : String
  machineImages : List MachineImage
  machineCapabilities : List CapabilityDefinition
  providerConfig : Option Json

instance : Codec CloudProfileSpec where
  encode s := .record [
    Codec.field "type" s.providerType,
    Codec.field "machineImages" s.machineImages,
    Codec.field "machineCapabilities" s.machineCapabilities,
    Codec.field? "providerConfig" s.providerConfig]
  decode := Codec.decodeRecord "CloudProfileSpec"
    (CloudProfileSpec.mk <$> Fields.defaulted "type" "" <*> Fields.defaulted "machineImages" []
      <*> Fields.defaulted "machineCapabilities" [] <*> Fields.optional "providerConfig")

end OpenstackAdmission.Versioned
