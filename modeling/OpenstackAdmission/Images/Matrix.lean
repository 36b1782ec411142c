import OpenstackAdmission.Images.Index
import OpenstackAdmission.Report.FieldError
import OpenstackAdmission.Versioned.Conversion
import OpenstackAdmission.Versioned.Defaults

/-!
# Matching images

Every image version that a profile offers needs images of the provider, and all images of the provider need
a version in the profile. Without capabilities, versions are matched by architecture; with capabilities, by
flavor, after defaults are applied. A namespaced profile need not map what its parent maps.

The operation `validate` of the matrix with `validate_core_images` and `validate_provider_images`
(specification, section 4.4).
-/

namespace OpenstackAdmission

/-- The images of a profile beside those of its provider configuration. -/
structure ImageMatrix where
  profileImages : List MachineImage
  providerImages : List ProviderImage
  /-- The images of the parent of a namespaced profile. -/
  parentImages : List Versioned.MachineImage
  definitions : List Versioned.CapabilityDefinition
  /-- The kind of the profile, for messages. -/
  profileKind : String

namespace ImageMatrix

/-- An image with a version, as messages name it. -/
def versionName (image version : String) : String := image ++ "@" ++ version

/-- The flavors of a version of the profile with defaults. -/
def profileFlavors (m : ImageMatrix) (v : MachineImageVersion) :
    Except ConversionError (List Versioned.Capabilities) :=
  (Versioned.MachineImageVersion.ofProfile? v).map fun v =>
    (Versioned.flavorsWithDefaults v.capabilityFlavors m.definitions).map
      Versioned.MachineImageFlavor.capabilities

/-- The flavors of a version of the provider with defaults. -/
def providerFlavors (m : ImageMatrix) (v : ProviderImageVersion) : List Versioned.Capabilities :=
  v.capabilityFlavors.map (·.capabilities.withDefaults m.definitions)

/-- Architectures of a version of the profile that no region has. -/
def uncoveredArchitectures (v : MachineImageVersion) (provided : ProviderImageVersion) :
    List String :=
  v.publishedArchitectures.filter fun architecture =>
    !provided.regions.any (·.effectiveArchitecture = architecture)

/-- Checks that a version of the profile is covered by a version of the provider. -/
def checkCovered (m : ImageMatrix) (image : String) (v : MachineImageVersion)
    (provided : ProviderImageVersion) (path : FieldPath) : List FieldError :=
  let missing := "missing providerConfig mapping for machine image version "
    ++ versionName image v.version
  if m.definitions = [] then
    (uncoveredArchitectures v provided).map fun architecture =>
      .required path (missing ++ " and architecture: " ++ architecture)
  else
    match m.profileFlavors v with
    | .error e => [.internal path e.message]
    | .ok flavors =>
      (flavors.filter (· ∉ m.providerFlavors provided)).map fun flavor =>
        .required path (missing ++ " and capabilities " ++ (encode flavor).text)

/-- Checks a version of the profile: the provider covers it, or the parent maps it. -/
def checkProfileVersion (m : ImageMatrix) (image : String) (path : FieldPath)
    (v : MachineImageVersion) : List FieldError :=
  match findVersion? m.providerImages image v.version with
  | some provided => m.checkCovered image v provided path
  | none =>
    errorIf (findVersion? m.parentImages image v.version).isNone
      (.required path ("machine image version " ++ versionName image v.version
        ++ " is not defined in the providerConfig"))

/-- Checks an image of the profile. -/
def checkProfileImage (m : ImageMatrix) (path : FieldPath) (image : MachineImage) :
    List FieldError :=
  if (findImage? m.providerImages image.name).isNone && (findImage? m.parentImages image.name).isNone
  then
    [.required path ("must provide an image mapping for image " ++ Text.quoted image.name
      ++ " in providerConfig")]
  else
    checkEach (path.child "versions") image.versions (m.checkProfileVersion image.name)

/-- Checks that a version of the provider maps nothing but what a version of the profile offers. Where the
flavors of the profile do not convert, this is reported there. -/
def checkExcess (m : ImageMatrix) (image : String) (offered : MachineImageVersion)
    (v : ProviderImageVersion) (path : FieldPath) : List FieldError :=
  let excess := "machine image version " ++ versionName image v.version
    ++ " has an excess entry for "
  if m.definitions = [] then
    checkEach (path.child "regions") v.regions fun path region =>
      errorIf (region.effectiveArchitecture ∉ offered.publishedArchitectures)
        (.forbidden path (excess ++ "region " ++ Text.quoted region.name ++ " and architecture "
          ++ Text.quoted region.effectiveArchitecture
          ++ ", which is not defined in the machineImages spec"))
  else
    match m.profileFlavors offered with
    | .error _ => []
    | .ok flavors =>
      checkEach (path.child "capabilityFlavors") (m.providerFlavors v) fun path flavor =>
        errorIf (flavor ∉ flavors)
          (.forbidden path (excess ++ "capabilities " ++ (encode flavor).text
            ++ ", which are not defined in the machineImages spec"))

/-- Checks a version of the provider. -/
def checkProviderVersion (m : ImageMatrix) (image : String) (path : FieldPath)
    (v : ProviderImageVersion) : List FieldError :=
  match findVersion? m.profileImages image v.version with
  | some offered => m.checkExcess image offered v path
  | none =>
    [.required path ("machine image version " ++ versionName image v.version
      ++ " is not defined in the " ++ m.profileKind ++ " spec.machineImages")]

/-- Checks both sides; the paths lead to the images of the profile and of the provider. -/
def check (m : ImageMatrix) (profilePath providerPath : FieldPath) : List FieldError :=
  checkEach profilePath m.profileImages m.checkProfileImage
  ++ checkEach providerPath m.providerImages fun path image =>
    checkEach (path.child "versions") image.versions (m.checkProviderVersion image.name)

end ImageMatrix

end OpenstackAdmission
