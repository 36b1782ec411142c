import OpenstackAdmission.Codec.Record

/-!
# Machine images of profiles

The images that a profile offers, by name and version, and the capabilities that tell the flavors of a
version apart.
-/

namespace OpenstackAdmission

/-- Names of capabilities with the values that an image or a machine type supports. -/
abbrev Capabilities := Dict (List String)

/-- A capability and every value it may take. -/
structure CapabilityDefinition where
  name : String
  values : List String
  deriving DecidableEq

instance : Codec CapabilityDefinition where
  encode d := .record [Codec.field "name" d.name, Codec.field "values" d.values]
  decode := Codec.decodeRecord "CapabilityDefinition"
    (CapabilityDefinition.mk <$> Fields.required "name" <*> Fields.defaulted "values" [])

/-- Capabilities that an image version is published with. -/
structure CapabilityFlavor where
  capabilities : Capabilities
  deriving DecidableEq

instance : Codec CapabilityFlavor where
  encode f := .record [Codec.field "capabilities" f.capabilities]
  decode := Codec.decodeRecord "CapabilityFlavor"
    (CapabilityFlavor.mk <$> Fields.defaulted "capabilities" Dict.empty)

structure MachineImageVersion where
  version : String
  classification : Option String
  /-- The architectures the version is published for; none stated means `amd64`. -/
  architectures : List String
  capabilityFlavors : List CapabilityFlavor
  deriving DecidableEq

instance : Codec MachineImageVersion where
  encode v := .record [
    Codec.field "version" v.version,
    Codec.field? "classification" v.classification,
    Codec.field "architectures" v.architectures,
    Codec.field "capabilityFlavors" v.capabilityFlavors]
  decode := Codec.decodeRecord "MachineImageVersion"
    (MachineImageVersion.mk <$> Fields.required "version" <*> Fields.optional "classification"
      <*> Fields.defaulted "architectures" [] <*> Fields.defaulted "capabilityFlavors" [])

structure MachineImage where
  name : String
  versions : List MachineImageVersion
  deriving DecidableEq

instance : Codec MachineImage where
  encode i := .record [Codec.field "name" i.name, Codec.field "versions" i.versions]
  decode := Codec.decodeRecord "MachineImage"
    (MachineImage.mk <$> Fields.required "name" <*> Fields.defaulted "versions" [])

/-- The architecture of images that state none. -/
def defaultArchitecture : String := "amd64"

/-- All architectures that images can be published for. -/
def knownArchitectures : List String := ["amd64", "arm64"]

/-- The architectures a version is published for. -/
def MachineImageVersion.publishedArchitectures (v : MachineImageVersion) : List String :=
  if v.architectures = [] then [defaultArchitecture] else v.architectures

end OpenstackAdmission
