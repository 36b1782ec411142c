import OpenstackAdmission.Manifest.MachineImage
import OpenstackAdmission.Versioned.Basic

/-!
# Images of the provider

Where the provider keeps the machine images of a profile: by region and architecture, or by capability
flavor and region.
-/

namespace OpenstackAdmission

/-- The image of one region. -/
structure RegionImage where
  name : String
  id : String
  architecture : Option String
  deriving DecidableEq

instance : Codec RegionImage where
  encode r := .record [
    Codec.field "name" r.name,
    Codec.field "id" r.id,
    Codec.field? "architecture" r.architecture]
  decode := Codec.decodeRecord "RegionIdMapping"
    (RegionImage.mk <$> Fields.required "name" <*> Fields.required "id"
      <*> Fields.optional "architecture")

/-- The architecture of the image; none stated means `amd64`. -/
def RegionImage.effectiveArchitecture (r : RegionImage) : String :=
  r.architecture.getD defaultArchitecture

/-- The images of one capability flavor. -/
structure ProviderFlavor where
  capabilities : Versioned.Capabilities
  regions : List RegionImage
  image : String
  deriving DecidableEq

instance : Codec ProviderFlavor where
  encode f := .record [
    Codec.field "capabilities" f.capabilities,
    Codec.field "regions" f.regions,
    Codec.field "image" f.image]
  decode := Codec.decodeRecord "MachineImageFlavor"
    (ProviderFlavor.mk <$> Fields.defaulted "capabilities" Dict.empty
      <*> Fields.defaulted "regions" [] <*> Fields.defaulted "image" "")

structure ProviderImageVersion where
  version : String
  /-- The name of the image where no region has its own. -/
  image : String
  regions : List RegionImage
  capabilityFlavors : List ProviderFlavor
  deriving DecidableEq

instance : Codec ProviderImageVersion where
  encode v := .record [
    Codec.field "version" v.version,
    Codec.field "image" v.image,
    Codec.field "regions" v.regions,
    Codec.field "capabilityFlavors" v.capabilityFlavors]
  decode := Codec.decodeRecord "MachineImageVersion"
    (ProviderImageVersion.mk <$> Fields.required "version" <*> Fields.defaulted "image" ""
      <*> Fields.defaulted "regions" [] <*> Fields.defaulted "capabilityFlavors" [])

structure ProviderImage where
  name : String
  versions : List ProviderImageVersion
  deriving DecidableEq

instance : Codec ProviderImage where
  encode i := .record [Codec.field "name" i.name, Codec.field "versions" i.versions]
  decode := Codec.decodeRecord "MachineImages"
    (ProviderImage.mk <$> Fields.required "name" <*> Fields.defaulted "versions" [])

end OpenstackAdmission
