import OpenstackAdmission.Proofs.Images.Flavors
import OpenstackAdmission.Proofs.Versioned.NormalForm
import OpenstackAdmission.Proofs.Versioned.Return

/-!
# Images with defaults

Images match by their flavors after defaults. Whoever writes the defaults into the images beforehand, on both sides,
must not be told anything else: not another error, not another text, not another place.

> `defaults_normalForm`: defaults normalize, and a match cannot tell images from their normal form.

The match goes by flavors only where capabilities are defined. There the flavors of a version of the profile convert,
and with defaults they convert again, as no definition is without values (`nonemptyValues_withDefaults`). A version of
the profile without flavors gets one, and a version of the provider without flavors stays as it is, so that flavors of
the provider keep their places.
-/

namespace OpenstackAdmission

/-! ## Defaults at every level -/

section WithDefaults

variable (definitions : List Versioned.CapabilityDefinition)

/-- The version with the defaults of its flavors written out, as the profile would state them. -/
def MachineImageVersion.withDefaults (v : MachineImageVersion) : MachineImageVersion :=
  { v with
    capabilityFlavors := (Versioned.flavorsWithDefaults v.versioned.capabilityFlavors definitions).map
      CapabilityFlavor.ofVersioned }

def MachineImage.withDefaults (image : MachineImage) : MachineImage :=
  { image with versions := image.versions.map (MachineImageVersion.withDefaults definitions) }

def ProviderFlavor.withDefaults (flavor : ProviderFlavor) : ProviderFlavor :=
  { flavor with capabilities := flavor.capabilities.withDefaults definitions }

def ProviderImageVersion.withDefaults (v : ProviderImageVersion) : ProviderImageVersion :=
  { v with capabilityFlavors := v.capabilityFlavors.map (ProviderFlavor.withDefaults definitions) }

def ProviderImage.withDefaults (image : ProviderImage) : ProviderImage :=
  { image with versions := image.versions.map (ProviderImageVersion.withDefaults definitions) }

end WithDefaults

/-- The match of the same images, with the defaults of all flavors written out. -/
def ImageMatrix.withDefaults (m : ImageMatrix) : ImageMatrix :=
  { m with
    profileImages := m.profileImages.map (MachineImage.withDefaults m.definitions)
    providerImages := m.providerImages.map (ProviderImage.withDefaults m.definitions) }

/-! ## One version -/

namespace MachineImageVersion

variable {v : MachineImageVersion} {definitions : List Versioned.CapabilityDefinition}

/-- Filling in defaults before or after the conversion is the same, as the conversion does not look into
lists of values. -/
theorem capabilityFlavors_versioned_withDefaults :
    (v.withDefaults definitions).versioned.capabilityFlavors =
      Versioned.flavorsWithDefaults v.versioned.capabilityFlavors definitions := by
  show ((Versioned.flavorsWithDefaults _ definitions).map _).map _ = _
  simp only [List.map_map, Function.comp_def, CapabilityFlavor.versioned_ofVersioned, List.map_id']

/-- A version is published with the same flavors. -/
theorem publishedFlavors_withDefaults :
    (v.withDefaults definitions).publishedFlavors definitions = v.publishedFlavors definitions := by
  rw [← map_flavorsWithDefaults, capabilityFlavors_versioned_withDefaults,
    Versioned.flavorsWithDefaults_flavorsWithDefaults, map_flavorsWithDefaults]

/-- Defaults leave no capability without values. -/
theorem nonemptyValues_withDefaults (hdefined : ∀ d ∈ definitions, d.values.values ≠ [])
    (hv : v.NonemptyValues) : (v.withDefaults definitions).NonemptyValues := by
  intro stated hstated e he
  obtain ⟨flavor, hflavor, rfl⟩ := List.mem_map.mp hstated
  obtain ⟨⟨name, values⟩, hentry, rfl⟩ := List.mem_map.mp he
  have hpublished : flavor.capabilities ∈ v.publishedFlavors definitions := by
    rw [← map_flavorsWithDefaults]
    exact List.mem_map_of_mem hflavor
  exact ImageMatrix.values_ne_nil_of_published hv hdefined hpublished
    (Dict.find?_eq_some_iff.mpr hentry)

end MachineImageVersion

namespace ImageMatrix

variable {m : ImageMatrix} {name : String} {path : FieldPath} {v : MachineImageVersion}
  {provided : ProviderImageVersion}

/-- The flavors of the provider are compared with their defaults. So nothing is left to fill in when it has
been done before. -/
theorem providerFlavors_withDefaults :
    m.withDefaults.providerFlavors (provided.withDefaults m.definitions) =
      m.providerFlavors provided := by
  show (provided.capabilityFlavors.map _).map _ = provided.capabilityFlavors.map _
  rw [List.map_map]
  refine List.map_congr_left fun flavor _ => ?_
  exact Versioned.Capabilities.withDefaults_withDefaults flavor.capabilities m.definitions

theorem findVersion?_provider_withDefaults (version : String) :
    findVersion? m.withDefaults.providerImages name version =
      (findVersion? m.providerImages name version).map
        (ProviderImageVersion.withDefaults m.definitions) :=
  findVersion?_map (ProviderImage.withDefaults m.definitions)
    (fun _ => ProviderImageVersion.withDefaults m.definitions) (fun _ => rfl) (fun _ => rfl)
    (fun _ _ => rfl) m.providerImages name version

theorem findVersion?_profile_withDefaults (version : String) :
    findVersion? m.withDefaults.profileImages name version =
      (findVersion? m.profileImages name version).map
        (MachineImageVersion.withDefaults m.definitions) :=
  findVersion?_map (MachineImage.withDefaults m.definitions)
    (fun _ => MachineImageVersion.withDefaults m.definitions) (fun _ => rfl) (fun _ => rfl)
    (fun _ _ => rfl) m.profileImages name version

theorem isNone_findImage?_withDefaults :
    (findImage? m.withDefaults.providerImages name).isNone =
      (findImage? m.providerImages name).isNone := by
  have hfind : findImage? m.withDefaults.providerImages name =
      (findImage? m.providerImages name).map (ProviderImage.withDefaults m.definitions) :=
    findImage?_map (ProviderImage.withDefaults m.definitions) (fun _ => rfl) m.providerImages name
  rw [hfind, Option.isNone_map]

/-! ## The match -/

section Match

variable (hdefined : ∀ d ∈ m.definitions, d.values.values ≠ [])

include hdefined

/-- The same on the side of the profile, for a version without empty lists: an empty one does not convert,
and there are no flavors then. -/
theorem profileFlavors_withDefaults (hv : v.NonemptyValues) :
    m.withDefaults.profileFlavors (v.withDefaults m.definitions) = m.profileFlavors v := by
  rw [profileFlavors_eq_ok_iff.mpr ⟨hv, rfl⟩]
  exact profileFlavors_eq_ok_iff.mpr
    ⟨MachineImageVersion.nonemptyValues_withDefaults hdefined hv,
      MachineImageVersion.publishedFlavors_withDefaults⟩

/-- Both sides of the comparison are as they were, so the errors are. -/
theorem checkCovered_withDefaults (hv : v.NonemptyValues) :
    m.withDefaults.checkCovered name (v.withDefaults m.definitions)
        (provided.withDefaults m.definitions) path =
      m.checkCovered name v provided path := by
  unfold checkCovered
  rw [profileFlavors_withDefaults hdefined hv, providerFlavors_withDefaults]
  rfl

theorem checkExcess_withDefaults (hv : v.NonemptyValues) :
    m.withDefaults.checkExcess name (v.withDefaults m.definitions)
        (provided.withDefaults m.definitions) path =
      m.checkExcess name v provided path := by
  unfold checkExcess
  rw [profileFlavors_withDefaults hdefined hv, providerFlavors_withDefaults]
  rfl

/-- The version of the provider is found by its name as before, and is the same but for what is filled in.
-/
theorem checkProfileVersion_withDefaults (hv : v.NonemptyValues) :
    m.withDefaults.checkProfileVersion name path (v.withDefaults m.definitions) =
      m.checkProfileVersion name path v := by
  have hfind : findVersion? m.withDefaults.providerImages name (v.withDefaults m.definitions).version =
      (findVersion? m.providerImages name v.version).map (ProviderImageVersion.withDefaults m.definitions) :=
    findVersion?_provider_withDefaults v.version
  unfold checkProfileVersion
  rw [hfind]
  cases findVersion? m.providerImages name v.version with
  | none => rfl
  | some provided => exact checkCovered_withDefaults hdefined hv

variable (hvalues : ∀ d ∈ declarations m.profileImages, d.2.NonemptyValues)

include hvalues

theorem checkProviderVersion_withDefaults (provided : ProviderImageVersion) :
    m.withDefaults.checkProviderVersion name path (provided.withDefaults m.definitions) =
      m.checkProviderVersion name path provided := by
  have hfind : findVersion? m.withDefaults.profileImages name (provided.withDefaults m.definitions).version =
      (findVersion? m.profileImages name provided.version).map
        (MachineImageVersion.withDefaults m.definitions) :=
    findVersion?_profile_withDefaults provided.version
  unfold checkProviderVersion
  rw [hfind]
  cases hfound : findVersion? m.profileImages name provided.version with
  | none => rfl
  | some offered =>
    -- what is found is declared, and so it converts
    rw [findVersion?_eq_firstDeclared?] at hfound
    exact checkExcess_withDefaults hdefined (hvalues _ (of_firstDeclared? hfound).1)

theorem checkProfileImage_withDefaults {image : MachineImage} (himage : image ∈ m.profileImages) :
    m.withDefaults.checkProfileImage path (image.withDefaults m.definitions) =
      m.checkProfileImage path image := by
  have hversions : checkEach (path.child "versions")
        (image.versions.map (MachineImageVersion.withDefaults m.definitions))
        (m.withDefaults.checkProfileVersion image.name) =
      checkEach (path.child "versions") image.versions (m.checkProfileVersion image.name) :=
    checkEach_map fun _ v hv => checkProfileVersion_withDefaults hdefined
      (hvalues (image.name, v) (mem_declarations.mpr ⟨image, himage, v, hv, rfl⟩))
  unfold checkProfileImage
  show (if (findImage? m.withDefaults.providerImages image.name).isNone && _ then _ else _) = _
  rw [isNone_findImage?_withDefaults, ← hversions]
  rfl

/-- The match finds the same at the same places. -/
theorem check_withDefaults (profilePath providerPath : FieldPath) :
    m.withDefaults.check profilePath providerPath = m.check profilePath providerPath := by
  unfold check
  refine congrArg₂ List.append ?_ ?_
  · exact checkEach_map fun path image himage => checkProfileImage_withDefaults hdefined hvalues himage
  · refine checkEach_map fun path image _ => checkEach_map fun path provided _ => ?_
    exact checkProviderVersion_withDefaults hdefined hvalues provided

end Match

end ImageMatrix

/-- **Defaults are a normal form that a match cannot tell from what it is given.** -/
theorem defaults_normalForm (definitions : List Versioned.CapabilityDefinition) :
    Versioned.DefaultsNormalize definitions ∧
      ∀ m : ImageMatrix, m.definitions = definitions →
        (∀ d ∈ definitions, d.values.values ≠ []) →
        (∀ d ∈ declarations m.profileImages,
          ∃ converted, Versioned.MachineImageVersion.ofProfile? d.2 = .ok converted) →
        ∀ profilePath providerPath : FieldPath,
          m.withDefaults.check profilePath providerPath = m.check profilePath providerPath := by
  refine ⟨Versioned.defaultsNormalize definitions, ?_⟩
  intro m hdefinitions hdefined hconverts
  subst hdefinitions
  apply ImageMatrix.check_withDefaults hdefined
  intro d hd
  obtain ⟨converted, hconverted⟩ := hconverts d hd
  exact ((Versioned.converts_version d.2 converted).mp hconverted).1

/-! One version of the profile has no flavor, and the other states what is not defined. The provider leaves a
capability out on either, and has a flavor too few on the first and one too many on the second. -/

def architectureAndGpu : List Versioned.CapabilityDefinition :=
  [{ name := "architecture", values := ⟨["amd64", "arm64"]⟩ }, { name := "gpu", values := ⟨["none", "nvidia"]⟩ }]

def imagesStatingLittle : List MachineImage := [
  { name := "ubuntu"
    versions := [
      { version := "22.04", classification := none, architectures := [], capabilityFlavors := [] },
      { version := "24.04", classification := some "preview", architectures := ["arm64"]
        capabilityFlavors := [
          { capabilities := Dict.ofList [("color", ["red"]), ("gpu", ["nvidia"])] }] }] }]

def providerFlavorStating (capabilities : List (String × List String)) : ProviderFlavor where
  capabilities := Dict.ofList (capabilities.map fun c => (c.1, ⟨c.2⟩))
  regions := [{ name := "eu", id := "1", architecture := none }]
  image := ""

def matrixStatingLittle : ImageMatrix where
  profileImages := imagesStatingLittle
  providerImages := [
    { name := "ubuntu"
      versions := [
        { version := "22.04", image := "", regions := []
          capabilityFlavors := [providerFlavorStating [("architecture", ["amd64", "arm64"]), ("gpu", ["none"])]] },
        { version := "24.04", image := "", regions := []
          capabilityFlavors := [providerFlavorStating [("gpu", ["nvidia"])], providerFlavorStating []] }] }]
  parentImages := []
  definitions := architectureAndGpu
  profileKind := "CloudProfile"

/-- The defaults change the images, and yet the match has its three errors as before. The order of the
definitions makes no difference. -/
theorem defaults_matrixStatingLittle :
    (∀ capabilities : Versioned.Capabilities,
        capabilities.withDefaults architectureAndGpu.reverse = capabilities.withDefaults architectureAndGpu) ∧
      matrixStatingLittle.withDefaults.profileImages ≠ imagesStatingLittle ∧
      (matrixStatingLittle.withDefaults.check (.root "spec") (.root "config")).length = 3 := by
  obtain ⟨hnormalize, hcheck⟩ := defaults_normalForm architectureAndGpu
  have hnames : (architectureAndGpu.map Versioned.CapabilityDefinition.name).Nodup := by decide
  have hdefined : ∀ d ∈ architectureAndGpu, d.values.values ≠ [] := by decide
  have hconverts : ∀ d ∈ declarations imagesStatingLittle,
      ∃ converted, Versioned.MachineImageVersion.ofProfile? d.2 = .ok converted :=
    List.forall_mem_cons.mpr ⟨⟨_, rfl⟩, List.forall_mem_singleton.mpr ⟨_, rfl⟩⟩
  refine ⟨(hnormalize.anyOrder hnames _ (List.reverse_perm _)).1, by decide, ?_⟩
  rw [hcheck matrixStatingLittle rfl hdefined hconverts]
  rfl

end OpenstackAdmission
