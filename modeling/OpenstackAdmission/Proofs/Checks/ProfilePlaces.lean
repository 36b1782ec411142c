import OpenstackAdmission.Checks.NamespacedCloudProfile
import OpenstackAdmission.Proofs.Report.Places

/-!
# Where the errors of a namespaced profile stand

The checks of images, one on its own and all of them beside those of the profile, are given the paths of both
lists, and each of their errors stands in one of them.

> `checkNamespaced_places`: the check of a namespaced profile against its parent finds fault with the provider
configuration and with the images, and with no other field. Whatever is reported of the parent is not from there.
-/

namespace OpenstackAdmission

variable {root path : FieldPath}

/-- An image of a region has two fields, and its errors stand at these. -/
theorem RegionImage.check_under (region : RegionImage) (h : path.Under root) :
    StandUnder root (region.check path) := by
  unfold RegionImage.check
  exact standUnder_append (standUnder_errorIf (h.child "name")) (standUnder_errorIf (h.child "id"))

namespace ProviderImageVersion

/-- A version by architecture is judged in the list of its regions and in the list of flavors that it should
not have. -/
theorem checkByArchitecture_under (v : ProviderImageVersion) (h : path.Under root) :
    StandUnder root (v.checkByArchitecture path) := by
  unfold checkByArchitecture
  refine standUnder_append (standUnder_append ?flavors ?lacking) ?regions
  case flavors => exact standUnder_errorIf (h.child "capabilityFlavors")
  case lacking => exact standUnder_errorIf (h.child "regions")
  case regions =>
    apply standUnder_checkEach (h.child "regions")
    intro path region hregion
    refine standUnder_append (region.check_under hregion) ?_
    cases region.architecture with
    | none => exact standUnder_nil
    | some architecture => exact standUnder_errorIf (hregion.child "architecture")

/-- What a flavor is capable of is judged key by key. A value that is not defined is reported at its key, as
values have no place of their own. -/
theorem checkCapabilities_under (capabilities : Versioned.Capabilities)
    (definitions : List Versioned.CapabilityDefinition) (h : path.Under root) :
    StandUnder root (checkCapabilities capabilities definitions path) := by
  unfold checkCapabilities
  apply standUnder_flatMap
  rintro ⟨name, stated⟩ _
  have hkey : (path.key name).Under root := h.key name
  dsimp only
  cases definitions.find? (·.name = name) with
  | none => exact standUnder_singleton hkey
  | some definition => exact standUnder_map fun _ => hkey

/-- Errors of a flavor stand in its capabilities or in its regions. -/
theorem checkFlavor_under (definitions : List Versioned.CapabilityDefinition)
    (flavor : ProviderFlavor) (h : path.Under root) :
    StandUnder root (checkFlavor definitions path flavor) := by
  unfold checkFlavor
  refine standUnder_append (standUnder_append ?capabilities ?lacking) ?regions
  case capabilities => exact checkCapabilities_under _ _ (h.child "capabilities")
  case lacking => exact standUnder_errorIf (h.child "regions")
  case regions =>
    apply standUnder_checkEach (h.child "regions")
    intro path region hregion
    exact standUnder_append (region.check_under hregion)
      (standUnder_errorIf (hregion.child "architecture"))

/-- A region that a flavor lacks has no place, so the error stands at the regions of the flavor. -/
theorem checkComplete_under (v : ProviderImageVersion) (h : path.Under root) :
    StandUnder root (v.checkComplete path) := by
  unfold checkComplete
  apply standUnder_checkEach h
  intro path flavor hflavor
  exact standUnder_map fun _ => hflavor.child "regions"

/-- A version by architecture and one by flavors are checked in different ways, but neither check looks
beyond the version. -/
theorem check_under (v : ProviderImageVersion) (definitions : List Versioned.CapabilityDefinition)
    (h : path.Under root) : StandUnder root (v.check definitions path) := by
  unfold check
  refine standUnder_append (standUnder_errorIf (h.child "version")) ?_
  by_cases hnone : definitions = []
  · rw [if_pos hnone]
    exact v.checkByArchitecture_under h
  · rw [if_neg hnone]
    have hflavors := h.child "capabilityFlavors"
    refine standUnder_append (standUnder_append (standUnder_errorIf (h.child "regions")) ?_)
      (v.checkComplete_under hflavors)
    apply standUnder_checkEach hflavors
    intro path flavor hflavor
    exact checkFlavor_under definitions flavor hflavor

end ProviderImageVersion

/-- An image has errors at its name, at its list of versions and in the versions. -/
theorem ProviderImage.check_under (image : ProviderImage)
    (definitions : List Versioned.CapabilityDefinition) (h : path.Under root) :
    StandUnder root (image.check definitions path) := by
  have hversions := h.child "versions"
  unfold ProviderImage.check
  refine standUnder_append (standUnder_append (standUnder_errorIf (h.child "name"))
    (standUnder_errorIf hversions)) ?_
  apply standUnder_checkEach hversions
  intro path v hv
  exact v.check_under definitions hv

namespace ImageMatrix

variable (m : ImageMatrix) (name : String)

/-- What the provider does not cover is reported at the version of the profile, never at that of the
provider. -/
theorem checkCovered_under (v : MachineImageVersion) (provided : ProviderImageVersion)
    (h : path.Under root) : StandUnder root (m.checkCovered name v provided path) := by
  unfold checkCovered
  by_cases hnone : m.definitions = []
  · rw [if_pos hnone]
    exact standUnder_map fun _ => h
  · rw [if_neg hnone]
    cases m.profileFlavors v with
    | error e => exact standUnder_singleton h
    | ok flavors => exact standUnder_map fun _ => h

/-- An image that the provider does not have at all is one error at its place. Otherwise its versions are
judged one by one. -/
theorem checkProfileImage_under (image : MachineImage) (h : path.Under root) :
    StandUnder root (m.checkProfileImage path image) := by
  unfold checkProfileImage
  split
  · exact standUnder_singleton h
  · apply standUnder_checkEach (h.child "versions")
    intro path v hv
    unfold checkProfileVersion
    cases findVersion? m.providerImages image.name v.version with
    | none => exact standUnder_errorIf hv
    | some provided => exact m.checkCovered_under image.name v provided hv

/-- What the provider has beyond the profile is reported at the region or at the flavor that is too much. -/
theorem checkExcess_under (offered : MachineImageVersion) (v : ProviderImageVersion)
    (h : path.Under root) : StandUnder root (m.checkExcess name offered v path) := by
  unfold checkExcess
  by_cases hnone : m.definitions = []
  · rw [if_pos hnone]
    apply standUnder_checkEach (h.child "regions")
    intro path region hregion
    exact standUnder_errorIf hregion
  · rw [if_neg hnone]
    cases m.profileFlavors offered with
    | error e => exact standUnder_nil
    | ok flavors =>
      apply standUnder_checkEach (h.child "capabilityFlavors")
      intro path flavor hflavor
      exact standUnder_errorIf hflavor

/-- A version that the profile does not offer is one error at its place, and its regions are not looked at.
-/
theorem checkProviderVersion_under (v : ProviderImageVersion) (h : path.Under root) :
    StandUnder root (m.checkProviderVersion name path v) := by
  unfold checkProviderVersion
  cases findVersion? m.profileImages name v.version with
  | none => exact standUnder_singleton h
  | some offered => exact m.checkExcess_under name offered v h

/-- The match finds fault with the images of both sides and with nothing else. -/
theorem check_places {profilePath providerPath : FieldPath} {e : FieldError}
    (he : e ∈ m.check profilePath providerPath) :
    e.path.Under profilePath ∨ e.path.Under providerPath := by
  unfold check at he
  rcases List.mem_append.mp he with he | he
  · left
    refine standUnder_checkEach (FieldPath.under_refl profilePath) ?_ e he
    intro path image himage
    exact m.checkProfileImage_under image himage
  · right
    refine standUnder_checkEach (FieldPath.under_refl providerPath) ?_ e he
    intro path image himage
    apply standUnder_checkEach (himage.child "versions")
    intro path v hv
    exact m.checkProviderVersion_under image.name v hv

end ImageMatrix

namespace CloudProfileConfig

/-- A version that the parent has too is reported at the version, below the images of the configuration. -/
theorem checkNotInParent_under (images : List ProviderImage)
    (parentImages : List Versioned.MachineImage) (h : path.Under root) :
    StandUnder root (checkNotInParent images parentImages path) := by
  unfold checkNotInParent
  apply standUnder_checkEach h
  intro path image himage
  apply standUnder_checkEach (himage.child "versions")
  intro path v hv
  exact standUnder_errorIf hv

/-- **The check against a parent finds no fault with the parent.** -/
theorem checkNamespaced_places {c : CloudProfileConfig} {profileImages : List MachineImage}
    {parent : Versioned.CloudProfileSpec} {specPath : FieldPath} {e : FieldError}
    (he : e ∈ c.checkNamespaced profileImages parent specPath) :
    e.path.Under (specPath.child "machineImages") ∨
      e.path.Under (specPath.child "providerConfig") := by
  have hconfig := FieldPath.under_refl (specPath.child "providerConfig")
  have himages := hconfig.child "machineImages"
  rcases List.mem_append.mp he with he | he
  · right
    refine standUnder_append (standUnder_append (standUnder_errorIf hconfig) ?_)
      (checkNotInParent_under _ _ himages) e he
    apply standUnder_checkEach himages
    intro path image himage
    exact image.check_under _ himage
  · rcases ImageMatrix.check_places _ he with he | he
    · exact .inl he
    · exact .inr (himages.trans he)

end CloudProfileConfig

end OpenstackAdmission
