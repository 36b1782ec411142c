import OpenstackAdmission.Proofs.Images.Sides

/-!
# Versions that do not convert

Flavors are compared in a form into which a version of the profile has to be converted. Where this fails, a version
of the provider is compared with nothing, and its own check has nothing to say.

> `reported_of_skips`: no comparison is left out silently. The same check reports the failure at the version of the
profile that was to be compared.

The two sides reach a version in different ways. The side of the provider takes the first declaration over all images
of a name; the side of the profile goes through every declaration, but leaves an image or a version early if the
provider has none, and compares it with nothing if the parent has it. What leads one side to the declaration is what
keeps the other from leaving: the provider has the image, and has the version, whatever the parent has
(`internal_mem_check`).
-/

namespace OpenstackAdmission.ImageMatrix

variable {m : ImageMatrix} {name : String} {v : ProviderImageVersion} {offered : MachineImageVersion}
  {e : ConversionError} {path profilePath providerPath : FieldPath}

/-- The flavors of a version of the provider are compared with nothing, because the version of the profile that is
found for it does not convert. -/
structure Skips (m : ImageMatrix) (name : String) (v : ProviderImageVersion) (offered : MachineImageVersion)
    (e : ConversionError) : Prop where
  defined : m.definitions ≠ []
  found : findVersion? m.profileImages name v.version = some offered
  fault : m.profileFlavors offered = .error e

/-- Where a comparison is skipped, the side of the provider reports nothing. -/
theorem Skips.checkProviderVersion (h : m.Skips name v offered e) (path : FieldPath) :
    m.checkProviderVersion name path v = [] := by
  unfold ImageMatrix.checkProviderVersion
  rw [h.found]
  refine (checkExcess_eq_nil_iff h.defined).mpr ?_
  intro flavors hflavors
  rw [h.fault] at hflavors
  cases hflavors

/-- A version of the profile that the provider maps and that does not convert is reported as such. -/
theorem checkCovered_of_fault (hsome : m.definitions ≠ []) (hfault : m.profileFlavors offered = .error e)
    (name : String) (provided : ProviderImageVersion) (path : FieldPath) :
    m.checkCovered name offered provided path = [.internal path e.message] := by
  unfold checkCovered
  rw [if_neg hsome, hfault]

/-- Every declaration of a mapped version that does not convert is reported at its place. -/
theorem internal_mem_check (hsome : m.definitions ≠ []) {image : MachineImage} {i j : Nat}
    (hi : m.profileImages[i]? = some image) (hj : image.versions[j]? = some offered)
    (hmapped : Declares m.providerImages image.name offered.version)
    (hfault : m.profileFlavors offered = .error e) (profilePath providerPath : FieldPath) :
    FieldError.internal (((profilePath.index i).child "versions").index j) e.message ∈
      m.check profilePath providerPath := by
  -- the provider has the image, so its versions are gone through
  have himage : m.checkProfileImage (profilePath.index i) image =
      checkEach ((profilePath.index i).child "versions") image.versions (m.checkProfileVersion image.name) :=
    checkProfileImage_of_present (exists_image_of_declares hmapped)
  -- the provider has the version, so it is compared, whether the parent has it or not
  obtain ⟨provided, hfirst⟩ := exists_firstDeclared? hmapped
  have hversion (path : FieldPath) : m.checkProfileVersion image.name path offered =
      [.internal path e.message] := by
    rw [checkProfileVersion_of_first hfirst, checkCovered_of_fault hsome hfault]
  refine List.mem_append_left _ (mem_checkEach.mpr ⟨i, image, hi, ?_⟩)
  rw [himage, mem_checkEach]
  refine ⟨j, offered, hj, ?_⟩
  rw [hversion]
  exact List.mem_singleton_self _

/-- **No comparison is left out silently.** Where a declared version of the provider is compared with nothing, the
check reports why, at the place of the declaration that was found for it. -/
theorem reported_of_skips (hv : (name, v) ∈ declarations m.providerImages) (h : m.Skips name v offered e)
    (profilePath providerPath : FieldPath) :
    (∀ path, m.checkProviderVersion name path v = []) ∧
      ∃ i j, FirstDeclaredAt m.profileImages name v.version offered i j ∧
        FieldError.internal (((profilePath.index i).child "versions").index j) e.message ∈
          m.check profilePath providerPath := by
  have hfirst : firstDeclared? m.profileImages name v.version = some offered := by
    rw [← findVersion?_eq_firstDeclared?]
    exact h.found
  obtain ⟨i, j, hplace⟩ := exists_firstDeclaredAt hfirst
  obtain ⟨image, hi, hname, hj, hversion, -⟩ := hplace.declared
  have hmapped : Declares m.providerImages (ImageForm.name image) (ImageForm.version (ι := MachineImage) offered) := by
    rw [hname, hversion]
    exact declares_of_mem hv
  exact ⟨h.checkProviderVersion, i, j, hplace,
    internal_mem_check h.defined hi hj hmapped h.fault profilePath providerPath⟩

/-! An image that is listed twice. Its second entry declares a version twice, first with a flavor that does not
convert; the parent has the version too, and the provider maps it twice. -/

def matrixWithUnconverted : ImageMatrix where
  profileImages := [
    { name := "ubuntu", versions := [] },
    { name := "ubuntu"
      versions := [
        { version := "24.04", classification := none, architectures := [], capabilityFlavors := [] },
        { version := "22.04", classification := none, architectures := []
          capabilityFlavors := [{ capabilities := Dict.ofList [("gpu", [])] }] },
        { version := "22.04", classification := none, architectures := [], capabilityFlavors := [] }] }]
  providerImages := [
    { name := "ubuntu"
      versions := [
        { version := "22.04", image := "", regions := [], capabilityFlavors := [] },
        { version := "22.04", image := "", regions := []
          capabilityFlavors := [
            { capabilities := Dict.ofList [("gpu", ⟨["no"]⟩)], regions := [], image := "ubuntu" }] }] }]
  parentImages := [
    { name := "ubuntu"
      versions := [{ version := "22.04", architectures := [], capabilityFlavors := [] }] }]
  definitions := [{ name := "gpu", values := ⟨["yes"]⟩ }]
  profileKind := "NamespacedCloudProfile"

/-- The flavor of the second mapping is not one of the profile, which nobody can tell. -/
theorem reported_matrixWithUnconverted :
    let m := matrixWithUnconverted
    let v : ProviderImageVersion :=
      { version := "22.04", image := "", regions := []
        capabilityFlavors := [
          { capabilities := Dict.ofList [("gpu", ⟨["no"]⟩)], regions := [], image := "ubuntu" }] }
    let offered : MachineImageVersion :=
      { version := "22.04", classification := none, architectures := []
        capabilityFlavors := [{ capabilities := Dict.ofList [("gpu", [])] }] }
    ("ubuntu", v) ∈ declarations m.providerImages ∧ m.Skips "ubuntu" v offered (.emptyValues "gpu") ∧
      ∃ i j, FirstDeclaredAt m.profileImages "ubuntu" "22.04" offered i j ∧
        FieldError.internal ((((FieldPath.root "spec").index i).child "versions").index j)
            "capability \"gpu\" does not declare any values" ∈
          m.check (.root "spec") (.root "config") := by
  intro m v offered
  have hv : ("ubuntu", v) ∈ declarations m.providerImages := by decide
  have hskips : m.Skips "ubuntu" v offered (.emptyValues "gpu") := ⟨List.cons_ne_nil _ _, rfl, rfl⟩
  obtain ⟨-, i, j, hplace, hreported⟩ := reported_of_skips hv hskips (.root "spec") (.root "config")
  exact ⟨hv, hskips, i, j, hplace, hreported⟩

end OpenstackAdmission.ImageMatrix
