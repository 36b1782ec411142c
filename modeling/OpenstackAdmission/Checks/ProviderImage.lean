import OpenstackAdmission.Config.ProviderImage
import OpenstackAdmission.Report.FieldError

/-!
# Images of a provider configuration

An image of the provider is checked on its own: everything has a name, versions are mapped the way that
the profile asks for, and all flavors of a version are mapped in the same regions.

The operation `validate_provider_machine_image` with `validate_region_mapping`,
`validate_architecture_mappings` and `validate_capability_flavor_mappings` (specification, sections 4.4 and
12.1).
-/

namespace OpenstackAdmission

/-- Checks that a region has a name and an image. -/
def RegionImage.check (region : RegionImage) (path : FieldPath) : List FieldError :=
  errorIf (region.name = "") (.required (path.child "name") "must provide a name")
  ++ errorIf (region.id = "") (.required (path.child "id") "must provide an image ID")

namespace ProviderImageVersion

/-- What an entry without image and regions lacks. -/
def imageOrRegion : String := "must provide an image or at least one region mapping"

/-- Checks a version that is mapped by architecture. -/
def checkByArchitecture (v : ProviderImageVersion) (path : FieldPath) : List FieldError :=
  errorIf (v.capabilityFlavors ≠ [])
    (.forbidden (path.child "capabilityFlavors")
      "must not be set as the CloudProfile does not define machine capabilities")
  ++ errorIf (v.image = "" && v.regions = []) (.required (path.child "regions") imageOrRegion)
  ++ checkEach (path.child "regions") v.regions fun path region =>
    region.check path
    ++ match region.architecture with
      | none => []
      | some architecture =>
        errorIf (architecture ∉ knownArchitectures)
          (.notSupported (path.child "architecture") (.str architecture) knownArchitectures)

/-- Checks that capabilities are defined, and their values too. -/
def checkCapabilities (capabilities : Versioned.Capabilities)
    (definitions : List Versioned.CapabilityDefinition) (path : FieldPath) : List FieldError :=
  capabilities.entries.flatMap fun (name, stated) =>
    let path := path.key name
    match definitions.find? (·.name = name) with
    | none =>
      [.notSupported path (.str name) (definitions.map Versioned.CapabilityDefinition.name)]
    | some definition =>
      (stated.values.filter (!definition.values.contains ·)).map fun value =>
        .notSupported path (.str value) definition.values.values

/-- Checks a flavor. -/
def checkFlavor (definitions : List Versioned.CapabilityDefinition) (path : FieldPath)
    (flavor : ProviderFlavor) : List FieldError :=
  checkCapabilities flavor.capabilities definitions (path.child "capabilities")
  ++ errorIf (flavor.image = "" && flavor.regions = [])
    (.required (path.child "regions") imageOrRegion)
  ++ checkEach (path.child "regions") flavor.regions fun path region =>
    region.check path
    ++ errorIf region.architecture.isSome
      (.forbidden (path.child "architecture")
        ("must not be set when machine capabilities are defined, the architecture is part of " ++
          "the flavor's capabilities"))

/-- The names of all regions that some flavor maps, ascending and without the empty one. -/
def flavorRegions (flavors : List ProviderFlavor) : List String :=
  ascending (((flavors.flatMap ProviderFlavor.regions).map RegionImage.name).filter (· ≠ ""))

/-- Checks that every flavor is mapped in every region of the version. -/
def checkComplete (v : ProviderImageVersion) (path : FieldPath) : List FieldError :=
  checkEach path v.capabilityFlavors fun path flavor =>
    ((flavorRegions v.capabilityFlavors).filter fun region =>
      !flavor.regions.any (·.name = region)).map fun region =>
        .required (path.child "regions")
          ("must provide an image for region " ++ Text.quoted region
            ++ ", which is covered by other capability flavors of version "
            ++ Text.quoted v.version)

/-- Checks a version that is mapped by flavors. -/
def checkByFlavor (v : ProviderImageVersion)
    (definitions : List Versioned.CapabilityDefinition) (path : FieldPath) : List FieldError :=
  let flavorsPath := path.child "capabilityFlavors"
  errorIf (v.regions ≠ [])
    (.forbidden (path.child "regions")
      ("must not be set when machine capabilities are defined, use " ++
        "capabilityFlavors[].regions instead"))
  ++ checkEach flavorsPath v.capabilityFlavors (checkFlavor definitions)
  ++ v.checkComplete flavorsPath

/-- Checks a version. -/
def check (v : ProviderImageVersion) (definitions : List Versioned.CapabilityDefinition)
    (path : FieldPath) : List FieldError :=
  errorIf (v.version = "") (.required (path.child "version") "must provide a version")
  ++ if definitions = [] then v.checkByArchitecture path else v.checkByFlavor definitions path

end ProviderImageVersion

/-- Checks an image. -/
def ProviderImage.check (image : ProviderImage)
    (definitions : List Versioned.CapabilityDefinition) (path : FieldPath) : List FieldError :=
  errorIf (image.name = "") (.required (path.child "name") "must provide a name")
  ++ errorIf (image.versions = [])
    (.required (path.child "versions")
      ("must provide at least one version for machine image " ++ Text.quoted image.name))
  ++ checkEach (path.child "versions") image.versions fun path v => v.check definitions path

end OpenstackAdmission
