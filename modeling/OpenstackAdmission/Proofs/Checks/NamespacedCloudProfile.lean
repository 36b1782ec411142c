import OpenstackAdmission.Checks.NamespacedCloudProfile
import OpenstackAdmission.Proofs.Images.Architectures
import OpenstackAdmission.Proofs.Images.Flavors

/-!
# What an accepted namespaced profile has

A namespaced profile adds versions of images to those of its parent. Three checks have a part in that: the match
with the provider configuration, which lets the profile offer what its parent has, the prohibition to map what
the parent has, and the match in the other direction, for which the parent does not count.

> `splitsWithParent_of_check`: where nothing is found, every version that the profile offers comes from its
parent or from its own configuration, and never from both; and what it maps itself has the same architectures,
or the same flavors, on both sides.

None of the three alone says this. The match accepts a version that both have, and the prohibition one that none
has.
-/

namespace OpenstackAdmission

/-- The versions of a namespaced profile are split between its parent and its own configuration. -/
structure SplitsWithParent (profile : List MachineImage) (c : CloudProfileConfig)
    (parent : Versioned.CloudProfileSpec) : Prop where
  /-- The configuration sets nothing but images. -/
  images : c = c.imagesOnly
  /-- Every version of the profile comes from one of the two. -/
  covered : ∀ name version, Declares profile name version →
    Declares parent.machineImages name version ∨ Declares c.machineImages name version
  /-- No version comes from both. -/
  apart : ∀ name version,
    ¬ (Declares parent.machineImages name version ∧ Declares c.machineImages name version)
  /-- The configuration maps versions of the profile only. -/
  offered : ∀ name version, Declares c.machineImages name version → Declares profile name version
  /-- Where the parent has no capabilities, mapped versions have the same architectures on both sides. -/
  architectures : parent.machineCapabilities = [] →
    ∀ name version, Declares c.machineImages name version → ∀ architecture,
      OffersArchitecture profile name version architecture ↔
        MapsArchitecture c.machineImages name version architecture
  /-- Where it has, they have the same flavors on both sides, and all flavors of the profile convert. -/
  flavors : parent.machineCapabilities ≠ [] →
    ∀ name version, Declares c.machineImages name version →
      (∀ d ∈ declarations profile, d.1 = name → d.2.version = version → d.2.NonemptyValues) ∧
        ∀ flavor, OffersFlavor profile parent.machineCapabilities name version flavor ↔
          MapsFlavor c.machineImages parent.machineCapabilities name version flavor

namespace CloudProfileConfig

variable {c : CloudProfileConfig} {profileImages : List MachineImage}
  {parent : Versioned.CloudProfileSpec} {specPath : FieldPath}

/-- The images of a namespaced profile beside those of its own configuration. -/
def namespacedMatrix (c : CloudProfileConfig) (profileImages : List MachineImage)
    (parent : Versioned.CloudProfileSpec) : ImageMatrix where
  profileImages
  providerImages := c.machineImages
  parentImages := parent.machineImages
  definitions := parent.machineCapabilities
  profileKind := "NamespacedCloudProfile"

/-- Nothing is found only where nothing but images is set, the parent has none of the versions, and the images
match. -/
theorem parts_of_checkNamespaced (h : c.checkNamespaced profileImages parent specPath = []) :
    c = c.imagesOnly ∧
      (∃ path, checkNotInParent c.machineImages parent.machineImages path = []) ∧
      ∃ profilePath path, (c.namespacedMatrix profileImages parent).check profilePath path = [] := by
  unfold checkNamespaced at h
  simp only [List.append_eq_nil_iff, errorIf_eq_nil_iff, decide_eq_false_iff_not] at h
  obtain ⟨⟨⟨himages, -⟩, hparent⟩, hmatrix⟩ := h
  exact ⟨Classical.not_not.mp himages, ⟨_, hparent⟩, _, _, hmatrix⟩

/-- Where the prohibition finds nothing, the parent declares no version that is mapped. -/
theorem not_declares_parent {images : List ProviderImage}
    {parentImages : List Versioned.MachineImage} {path : FieldPath}
    (h : checkNotInParent images parentImages path = []) {name version : String}
    (hmapped : Declares images name version) : ¬ Declares parentImages name version := by
  obtain ⟨d, hd, rfl, rfl⟩ := hmapped
  obtain ⟨image, himage, v, hv, rfl⟩ := mem_declarations.mp hd
  unfold checkNotInParent at h
  obtain ⟨i, hi⟩ := check_eq_nil_of_checkEach h himage
  obtain ⟨j, hj⟩ := check_eq_nil_of_checkEach hi hv
  rw [errorIf_eq_nil_iff, findVersion?_eq_firstDeclared?, Option.isSome_eq_false_iff,
    Option.isNone_iff_eq_none] at hj
  exact firstDeclared?_eq_none_iff.mp hj

/-- **A namespaced profile that is accepted has every version from exactly one place.** -/
theorem splitsWithParent_of_check (h : c.checkNamespaced profileImages parent specPath = []) :
    SplitsWithParent profileImages c parent := by
  obtain ⟨himages, ⟨path, hparent⟩, profilePath, providerPath, hmatrix⟩ :=
    parts_of_checkNamespaced h
  refine
    { images := himages
      covered := ?covered
      apart := ?apart
      offered := ?offered
      architectures := ?architectures
      flavors := ?flavors }
  case covered =>
    intro name version hdeclared
    obtain ⟨d, hd, rfl, rfl⟩ := hdeclared
    -- a version that the provider does not map passes only if the parent declares it
    rcases ImageMatrix.covered_of_check hmatrix hd with ⟨provided, path, hfirst, -⟩ | ⟨-, hinherited⟩
    · exact .inr (declares_of_firstDeclared? hfirst)
    · exact .inl hinherited
  case apart =>
    intro name version hboth
    exact not_declares_parent hparent hboth.2 hboth.1
  case offered =>
    intro name version hmapped
    obtain ⟨d, hd, rfl, rfl⟩ := hmapped
    obtain ⟨offered, path, hfirst, -⟩ := ImageMatrix.within_of_check hmatrix hd
    exact declares_of_firstDeclared? hfirst
  case architectures =>
    intro hnone name version hmapped architecture
    exact ImageMatrix.offersArchitecture_iff_of_mapped hnone hmatrix hmapped architecture
  case flavors =>
    intro hsome name version hmapped
    refine ⟨?_, ImageMatrix.offersFlavor_iff_of_mapped hsome hmatrix hmapped⟩
    intro d hd hname hversion
    subst hname hversion
    exact (ImageMatrix.flavors_covered_of_mapped hsome hmatrix hd hmapped).1

/-! A profile that offers a version of its parent again, beside one of its own that is declared twice and mapped
with its flavors in another order. -/

def parentWithArchitectures : Versioned.CloudProfileSpec where
  providerType := "openstack"
  machineImages := [
    { name := "ubuntu"
      versions := [{ version := "22.04", architectures := [], capabilityFlavors := [] }] }]
  machineCapabilities := [{ name := "architecture", values := ⟨["amd64", "arm64"]⟩ }]
  providerConfig := none

def imagesBesideParent : List MachineImage :=
  [{ name := "ubuntu"
     versions := [
      { version := "22.04", classification := none, architectures := [], capabilityFlavors := [] },
      { version := "24.04", classification := none, architectures := [], capabilityFlavors := [
        { capabilities := Dict.ofList [("architecture", ["amd64"])] },
        { capabilities := Dict.empty }] },
      { version := "24.04", classification := none, architectures := [],
        capabilityFlavors := [] }] }]

def configBesideParent : CloudProfileConfig where
  machineImages := [
    { name := "ubuntu"
      versions := [
        { version := "24.04", image := "", regions := []
          capabilityFlavors := [
            { capabilities := Dict.ofList [("architecture", ⟨["amd64", "arm64"]⟩)], image := ""
              regions := [{ name := "eu", id := "1", architecture := none }] },
            { capabilities := Dict.ofList [("architecture", ⟨["amd64"]⟩)], image := ""
              regions := [{ name := "eu", id := "2", architecture := none }] }] }] }]

/-- The version of the parent is offered again and the other one is mapped, so each of them belongs to one
of the two. -/
theorem splitsWithParent_configBesideParent :
    configBesideParent.checkNamespaced imagesBesideParent parentWithArchitectures (.root "spec") =
        [] ∧
      SplitsWithParent imagesBesideParent configBesideParent parentWithArchitectures := by
  have hcheck : configBesideParent.checkNamespaced imagesBesideParent parentWithArchitectures
      (.root "spec") = [] := by
    rfl
  exact ⟨hcheck, splitsWithParent_of_check hcheck⟩

end CloudProfileConfig

end OpenstackAdmission
