import OpenstackAdmission.Proofs.Checks.CloudProfile
import OpenstackAdmission.Proofs.Images.Reordering

/-!
# Profiles with values in another order

Flavors are compared with their values as lists: one of the provider matches one of the profile if both have the same
values in the same order. So one list alone must not change its order (`check_configListing_ne_nil`).

> `check_of_reordering`: where equal lists of a version stay equal, what is accepted stays accepted; where different
ones stay different too, exactly the same is accepted.

The rest of the check asks at most which values a list has.
-/

namespace OpenstackAdmission

/-- Items that change one by one pass if each of them does. -/
theorem checkEach_map_eq_nil {α β : Type} {path : FieldPath} {items : List α} {change : α → β}
    {check : FieldPath → α → List FieldError} {check' : FieldPath → β → List FieldError}
    (hstep : ∀ path, ∀ item ∈ items, check path item = [] → check' path (change item) = [])
    (h : checkEach path items check = []) : checkEach path (items.map change) check' = [] := by
  rw [checkEach_eq_nil_iff] at h ⊢
  intro i changed hi
  rw [List.getElem?_map] at hi
  obtain ⟨item, hitem, rfl⟩ := Option.map_eq_some_iff.mp hi
  exact hstep _ item (List.mem_of_getElem? hitem) (h i item hitem)

/-! ## Images of the provider -/

section Provider

variable {definitions : List Versioned.CapabilityDefinition} {path : FieldPath}
  {defined : String → List String → List String}
  (hdefined : ∀ name values, (defined name values).Perm values)

section Flavor

variable {order : String → List String → List String}
  (horder : ∀ name values, (order name values).Perm values)

include hdefined horder

/-- A stated value is defined, wherever it stands. -/
theorem checkCapabilities_reordered {capabilities : Versioned.Capabilities}
    (h : ProviderImageVersion.checkCapabilities capabilities definitions path = []) :
    ProviderImageVersion.checkCapabilities (capabilities.reordered order)
      (definitions.map (·.reordered defined)) path = [] := by
  rw [ProviderImageVersion.checkCapabilities_eq_nil_iff] at h ⊢
  intro e he
  obtain ⟨own, hown, rfl⟩ := List.mem_map.mp he
  obtain ⟨d, hd, hvalues⟩ := h own hown
  refine ⟨d.reordered defined, ?_, ?_⟩
  · rw [List.find?_map]
    exact congrArg (Option.map _) hd
  · intro value hvalue
    have hstated : value ∈ own.2.values := (horder _ _).mem_iff.mp hvalue
    exact (hdefined _ _).mem_iff.mpr (hvalues value hstated)

/-- Of a flavor only the capabilities have lists of values. The image and the regions are what they were. -/
theorem checkFlavor_reordered {flavor : ProviderFlavor}
    (h : ProviderImageVersion.checkFlavor definitions path flavor = []) :
    ProviderImageVersion.checkFlavor (definitions.map (·.reordered defined)) path
      (flavor.reordered order) = [] := by
  unfold ProviderImageVersion.checkFlavor at h ⊢
  rw [List.append_eq_nil_iff, List.append_eq_nil_iff] at h ⊢
  obtain ⟨⟨hcapabilities, himage⟩, hregions⟩ := h
  exact ⟨⟨checkCapabilities_reordered hdefined horder hcapabilities, himage⟩, hregions⟩

end Flavor

/-- Regions are collected from the flavors without a look at the capabilities. -/
theorem flavorRegions_reordered {order : String → List String → List String}
    (flavors : List ProviderFlavor) :
    ProviderImageVersion.flavorRegions (flavors.map (·.reordered order)) =
      ProviderImageVersion.flavorRegions flavors := by
  unfold ProviderImageVersion.flavorRegions
  rw [List.flatMap_map]
  rfl

section Version

variable {order : String → String → List String → List String}
  (horder : ∀ version name values, (order version name values).Perm values) {v : ProviderImageVersion}

/-- Gaps between flavors are gaps between their regions, and these do not change. -/
theorem checkComplete_reordered (h : v.checkComplete path = []) :
    (v.reordered order).checkComplete path = [] := by
  have hregions : ProviderImageVersion.flavorRegions (v.reordered order).capabilityFlavors =
      ProviderImageVersion.flavorRegions v.capabilityFlavors :=
    flavorRegions_reordered v.capabilityFlavors
  refine checkEach_map_eq_nil (fun path flavor _ hflavor => ?_) h
  rw [hregions]
  exact hflavor

/-- A version by architecture has no flavors, before and after. Lists of values make no difference to it. -/
theorem checkByArchitecture_reordered (h : v.checkByArchitecture path = []) :
    (v.reordered order).checkByArchitecture path = [] := by
  unfold ProviderImageVersion.checkByArchitecture at h ⊢
  rw [List.append_eq_nil_iff, List.append_eq_nil_iff, errorIf_eq_nil_iff] at h ⊢
  obtain ⟨⟨hnone, hmapped⟩, hregions⟩ := h
  refine ⟨⟨?_, hmapped⟩, hregions⟩
  simpa [ProviderImageVersion.reordered] using hnone

include hdefined horder

/-- Neither mode compares lists of values with each other: one has none, the other looks the values up. -/
theorem ProviderImageVersion.check_reordered (h : v.check definitions path = []) :
    (v.reordered order).check (definitions.map (·.reordered defined)) path = [] := by
  unfold ProviderImageVersion.check at h ⊢
  rw [List.append_eq_nil_iff] at h ⊢
  obtain ⟨hversion, hmapped⟩ := h
  refine ⟨hversion, ?_⟩
  by_cases hnone : definitions = []
  · rw [if_pos hnone] at hmapped
    rw [if_pos (List.map_eq_nil_iff.mpr hnone)]
    exact checkByArchitecture_reordered hmapped
  · rw [if_neg hnone] at hmapped
    rw [if_neg (fun hnil => hnone (List.map_eq_nil_iff.mp hnil))]
    unfold checkByFlavor at hmapped ⊢
    rw [List.append_eq_nil_iff, List.append_eq_nil_iff] at hmapped ⊢
    obtain ⟨⟨hregions, hflavors⟩, hcomplete⟩ := hmapped
    refine ⟨⟨hregions, ?_⟩, checkComplete_reordered hcomplete⟩
    exact checkEach_map_eq_nil
      (fun path flavor _ hflavor => checkFlavor_reordered hdefined (horder v.version) hflavor) hflavors

end Version

include hdefined

/-- An image is checked version by version, and its name and the number of its versions are kept. -/
theorem ProviderImage.check_reordered {order : String → String → String → List String → List String}
    (horder : ∀ image version name values, (order image version name values).Perm values)
    {image : ProviderImage} (h : image.check definitions path = []) :
    (image.reordered order).check (definitions.map (·.reordered defined)) path = [] := by
  unfold ProviderImage.check at h ⊢
  rw [List.append_eq_nil_iff, List.append_eq_nil_iff, errorIf_eq_nil_iff, errorIf_eq_nil_iff] at h ⊢
  obtain ⟨⟨hname, hsome⟩, hversions⟩ := h
  refine ⟨⟨hname, ?_⟩, ?_⟩
  · simpa [ProviderImage.reordered] using hsome
  · exact checkEach_map_eq_nil
      (fun path v _ hv => ProviderImageVersion.check_reordered hdefined (horder image.name) hv) hversions

end Provider

/-! ## The match of the two sides -/

namespace ImageMatrix

/-- The images and the definitions with values in another order. -/
def reordered (r : Reordering) (m : ImageMatrix) : ImageMatrix :=
  { m with
    profileImages := m.profileImages.map (·.reordered r.stated)
    providerImages := m.providerImages.map (·.reordered r.stated)
    definitions := m.definitions.map (·.reordered r.defined) }

variable {m : ImageMatrix} {r : Reordering}
  (hfollows : r.FollowsDefinitions m.profileImages m.providerImages m.definitions)
  {name : String} {path : FieldPath}

include hfollows

/-- The flavors that the profile publishes change as their lists do. A list that is missing is filled in
from the definitions, so it is here that lists of a version and of the definitions have to change alike. -/
theorem profileFlavors_reordered_eq_ok_iff {v : MachineImageVersion}
    (hv : (name, v) ∈ declarations m.profileImages) {flavors : List Versioned.Capabilities} :
    (m.reordered r).profileFlavors (v.reordered (r.stated name)) = .ok flavors ↔
      v.NonemptyValues ∧ (v.publishedFlavors m.definitions).map
        (·.reordered (r.stated name v.version)) = flavors := by
  rw [profileFlavors_eq_ok_iff, MachineImageVersion.nonemptyValues_reordered_iff (r.stated_perm name)]
  show _ ∧ (v.reordered _).publishedFlavors (m.definitions.map _) = flavors ↔ _
  rw [MachineImageVersion.publishedFlavors_reordered (hfollows.ofProfile _ hv)]

/-- The flavors of the provider change in the same way: what is filled in is the list of the definition, in
its new order. -/
theorem providerFlavors_reordered {v : ProviderImageVersion}
    (hv : (name, v) ∈ declarations m.providerImages) :
    (m.reordered r).providerFlavors (v.reordered (r.stated name)) =
      (m.providerFlavors v).map (·.reordered (r.stated name v.version)) := by
  unfold providerFlavors
  show (v.capabilityFlavors.map _).map _ = _
  rw [List.map_map, List.map_map]
  refine List.map_congr_left fun flavor hflavor => ?_
  exact Versioned.Capabilities.withDefaults_reordered fun d hd hleft =>
    hfollows.ofProvider _ hv d hd ⟨flavor, hflavor, hleft⟩

/-- A version that is covered still is: its flavors change like those of the provider. -/
theorem checkCovered_reordered {v : MachineImageVersion} {provided : ProviderImageVersion}
    (hv : (name, v) ∈ declarations m.profileImages)
    (hprovided : (name, provided) ∈ declarations m.providerImages)
    (hversion : provided.version = v.version) (h : m.checkCovered name v provided path = []) :
    (m.reordered r).checkCovered name (v.reordered (r.stated name))
      (provided.reordered (r.stated name)) path = [] := by
  by_cases hnone : m.definitions = []
  · have hnone' : (m.reordered r).definitions = [] := List.map_eq_nil_iff.mpr hnone
    unfold checkCovered at h ⊢
    rw [if_pos hnone] at h
    rw [if_pos hnone']
    exact h
  · have hsome : (m.reordered r).definitions ≠ [] := fun hnil => hnone (List.map_eq_nil_iff.mp hnil)
    -- a flavor that was found is found again, changed like the list that it is looked up in
    obtain ⟨flavors, hflavors, hall⟩ := (checkCovered_eq_nil_iff hnone).mp h
    obtain ⟨hvalues, rfl⟩ := profileFlavors_eq_ok_iff.mp hflavors
    have hpublished := (profileFlavors_reordered_eq_ok_iff hfollows hv).mpr ⟨hvalues, rfl⟩
    refine (checkCovered_eq_nil_iff hsome).mpr ⟨_, hpublished, ?_⟩
    rw [providerFlavors_reordered hfollows hprovided, hversion, List.forall_mem_map]
    exact fun flavor hflavor => List.mem_map_of_mem (hall flavor hflavor)

/-- A version that has nothing in excess still has not. -/
theorem checkExcess_reordered {offered : MachineImageVersion} {v : ProviderImageVersion}
    (hoffered : (name, offered) ∈ declarations m.profileImages)
    (hv : (name, v) ∈ declarations m.providerImages)
    (hversion : offered.version = v.version) (h : m.checkExcess name offered v path = []) :
    (m.reordered r).checkExcess name (offered.reordered (r.stated name))
      (v.reordered (r.stated name)) path = [] := by
  by_cases hnone : m.definitions = []
  · have hnone' : (m.reordered r).definitions = [] := List.map_eq_nil_iff.mpr hnone
    unfold checkExcess at h ⊢
    rw [if_pos hnone] at h
    rw [if_pos hnone']
    exact h
  · have hsome : (m.reordered r).definitions ≠ [] := fun hnil => hnone (List.map_eq_nil_iff.mp hnil)
    refine (checkExcess_eq_nil_iff hsome).mpr fun flavors hflavors => ?_
    obtain ⟨hvalues, rfl⟩ := (profileFlavors_reordered_eq_ok_iff hfollows hoffered).mp hflavors
    have hall := (checkExcess_eq_nil_iff hnone).mp h _ (profileFlavors_eq_ok_iff.mpr ⟨hvalues, rfl⟩)
    rw [providerFlavors_reordered hfollows hv, hversion, List.forall_mem_map]
    exact fun flavor hflavor => List.mem_map_of_mem (hall flavor hflavor)

/-- A version of the profile is found again on the side of the provider, as names and versions are kept, and
is covered there as before. -/
theorem checkProfileVersion_reordered {v : MachineImageVersion}
    (hv : (name, v) ∈ declarations m.profileImages) (h : m.checkProfileVersion name path v = []) :
    (m.reordered r).checkProfileVersion name path (v.reordered (r.stated name)) = [] := by
  have hfind : findVersion? (m.reordered r).providerImages name (v.reordered (r.stated name)).version =
      (findVersion? m.providerImages name v.version).map (·.reordered (r.stated name)) :=
    findVersion?_provider_reordered m.providerImages
  unfold checkProfileVersion at h ⊢
  rw [hfind]
  cases hfound : findVersion? m.providerImages name v.version with
  | none =>
    rw [hfound] at h
    exact h
  | some provided =>
    rw [hfound] at h
    rw [findVersion?_eq_firstDeclared?] at hfound
    obtain ⟨hprovided, hversion⟩ := of_firstDeclared? hfound
    exact checkCovered_reordered hfollows hv hprovided hversion h

/-- The other direction: what the provider has is offered by the same version of the profile, and is not in
excess of it. -/
theorem checkProviderVersion_reordered {v : ProviderImageVersion}
    (hv : (name, v) ∈ declarations m.providerImages) (h : m.checkProviderVersion name path v = []) :
    (m.reordered r).checkProviderVersion name path (v.reordered (r.stated name)) = [] := by
  have hfind : findVersion? (m.reordered r).profileImages name (v.reordered (r.stated name)).version =
      (findVersion? m.profileImages name v.version).map (·.reordered (r.stated name)) :=
    findVersion?_profile_reordered m.profileImages
  unfold checkProviderVersion at h ⊢
  rw [hfind]
  cases hfound : findVersion? m.profileImages name v.version with
  | none =>
    rw [hfound] at h
    cases h
  | some offered =>
    rw [hfound] at h
    rw [findVersion?_eq_firstDeclared?] at hfound
    obtain ⟨hoffered, hversion⟩ := of_firstDeclared? hfound
    exact checkExcess_reordered hfollows hoffered hv hversion h

/-- An image is there on both sides or on one, whatever its lists are like, and its versions still match. -/
theorem checkProfileImage_reordered {image : MachineImage} (himage : image ∈ m.profileImages)
    (h : m.checkProfileImage path image = []) :
    (m.reordered r).checkProfileImage path (image.reordered r.stated) = [] := by
  have hfind : (findImage? (m.reordered r).providerImages (image.reordered r.stated).name).isNone =
      (findImage? m.providerImages image.name).isNone := by
    show (findImage? (m.providerImages.map _) image.name).isNone = _
    rw [findImage?_provider_reordered, Option.isNone_map]
  unfold checkProfileImage at h ⊢
  rw [hfind]
  split at h
  · cases h
  · next hpresent =>
    refine (if_neg hpresent).trans (checkEach_map_eq_nil (fun path v hv hchecked => ?_) h)
    exact checkProfileVersion_reordered hfollows (mem_declarations.mpr ⟨image, himage, v, hv, rfl⟩) hchecked

/-- **The sides still match when their lists change alike.** -/
theorem check_reordered {profilePath providerPath : FieldPath}
    (h : m.check profilePath providerPath = []) :
    (m.reordered r).check profilePath providerPath = [] := by
  unfold check at h ⊢
  rw [List.append_eq_nil_iff] at h ⊢
  obtain ⟨hprofile, hprovider⟩ := h
  constructor
  · exact checkEach_map_eq_nil
      (fun path image himage hchecked => checkProfileImage_reordered hfollows himage hchecked) hprofile
  · refine checkEach_map_eq_nil (fun path image himage hchecked => ?_) hprovider
    refine checkEach_map_eq_nil (fun path v hv hversion => ?_) hchecked
    exact checkProviderVersion_reordered hfollows (mem_declarations.mpr ⟨image, himage, v, hv, rfl⟩)
      hversion

end ImageMatrix

/-! ## Profiles -/

namespace CloudProfileConfig

variable {r : Reordering} {profileImages : List MachineImage} {capabilities : List CapabilityDefinition}

/-- Definitions convert in any order of their values. -/
theorem definitionsOfProfile?_reordered {definitions : List Versioned.CapabilityDefinition}
    (h : Versioned.definitionsOfProfile? capabilities = .ok definitions) :
    Versioned.definitionsOfProfile? (capabilities.map (·.reordered r.defined)) =
      .ok (definitions.map (·.reordered r.defined)) := by
  obtain ⟨⟨hvalues, hnames⟩, rfl⟩ := Versioned.definitionsOfProfile?_eq_ok_iff.mp h
  refine Versioned.definitionsOfProfile?_eq_ok_iff.mpr ⟨⟨?_, ?_⟩, ?_⟩
  · rw [List.forall_mem_map]
    intro d hd hnil
    have hperm : (d.reordered r.defined).values.Perm d.values := r.defined_perm d.name d.values
    rw [hnil, List.nil_perm] at hperm
    exact hvalues d hd hperm
  · rw [List.map_map]
    exact hnames
  · exact CapabilityDefinition.map_versioned_reordered capabilities

/-- What is accepted stays accepted. -/
theorem check_reordered {c : CloudProfileConfig} {specPath : FieldPath}
    (hfollows : r.FollowsDefinitions profileImages c.machineImages
      (capabilities.map CapabilityDefinition.versioned))
    (h : c.check profileImages capabilities specPath = []) :
    (c.reordered r.stated).check (profileImages.map (·.reordered r.stated))
      (capabilities.map (·.reordered r.defined)) specPath = [] := by
  obtain ⟨definitions, hdefinitions, himages⟩ := checkImages_of_check h
  obtain rfl := (Versioned.definitionsOfProfile?_eq_ok_iff.mp hdefinitions).2
  have hoffers := (List.append_eq_nil_iff.mp h).1
  unfold check
  rw [definitionsOfProfile?_reordered hdefinitions, List.append_eq_nil_iff]
  refine ⟨hoffers, ?_⟩
  unfold checkImages at himages
  rw [List.append_eq_nil_iff, List.append_eq_nil_iff, errorIf_eq_nil_iff] at himages
  obtain ⟨⟨hsome, hown⟩, hmatrix⟩ := himages
  show (c.reordered r.stated).checkImages _ _ specPath = []
  unfold checkImages
  rw [List.append_eq_nil_iff, List.append_eq_nil_iff, errorIf_eq_nil_iff]
  refine ⟨⟨?_, ?_⟩, ?_⟩
  · simpa [CloudProfileConfig.reordered] using hsome
  · exact checkEach_map_eq_nil
      (fun path image _ himage => ProviderImage.check_reordered r.defined_perm r.stated_perm himage) hown
  · let matrix : ImageMatrix := ⟨profileImages, c.machineImages, [],
      capabilities.map CapabilityDefinition.versioned, "CloudProfile"⟩
    exact ImageMatrix.check_reordered (m := matrix) hfollows hmatrix

/-- **The order of values counts from list to list only.** If equal lists of a version stay equal, what is accepted
stays accepted; if different ones stay different, nothing else becomes so. -/
theorem check_of_reordering {c : CloudProfileConfig} {specPath : FieldPath}
    (hfollows : r.FollowsDefinitions profileImages c.machineImages
      (capabilities.map CapabilityDefinition.versioned)) :
    (c.check profileImages capabilities specPath = [] →
        (c.reordered r.stated).check (profileImages.map (·.reordered r.stated))
          (capabilities.map (·.reordered r.defined)) specPath = []) ∧
      (r.OneToOne →
        ((c.reordered r.stated).check (profileImages.map (·.reordered r.stated))
            (capabilities.map (·.reordered r.defined)) specPath = [] ↔
          c.check profileImages capabilities specPath = [])) := by
  refine ⟨check_reordered hfollows, fun hinjective => ⟨fun h => ?_, check_reordered hfollows⟩⟩
  -- the way back is a reordering too, so acceptance passes back with it
  obtain ⟨back, hback⟩ := hinjective.exists_undoes
  have hfollowsBack : back.FollowsDefinitions (profileImages.map (·.reordered r.stated))
      (c.reordered r.stated).machineImages
      ((capabilities.map (·.reordered r.defined)).map CapabilityDefinition.versioned) := by
    rw [CapabilityDefinition.map_versioned_reordered]
    exact hfollows.of_undoes hback
  have hchecked := check_reordered hfollowsBack h
  rwa [CloudProfileConfig.reordered_leftInverse hback.stated,
    (MachineImage.reordered_leftInverse hback.stated).list_map,
    (CapabilityDefinition.reordered_leftInverse hback.defined).list_map] at hchecked

/-! All lists backwards. A flavor of the provider leaves its only capability to the definition. -/

def backwards : Reordering where
  stated _ _ _ values := values.reverse
  defined _ values := values.reverse
  stated_perm _ _ _ values := values.reverse_perm
  defined_perm _ values := values.reverse_perm

/-- What is accepted forwards is accepted backwards. -/
theorem check_configMappedTwice_backwards :
    backwards.FollowsDefinitions imagesDeclaredTwice configMappedTwice.machineImages
        (twoArchitectures.map CapabilityDefinition.versioned) ∧
      backwards.OneToOne ∧
      configMappedTwice.check imagesDeclaredTwice twoArchitectures (.root "spec") = [] ∧
      (configMappedTwice.reordered backwards.stated).check
        (imagesDeclaredTwice.map (·.reordered backwards.stated))
        (twoArchitectures.map (·.reordered backwards.defined)) (.root "spec") = [] := by
  have hfollows : backwards.FollowsDefinitions imagesDeclaredTwice configMappedTwice.machineImages
      (twoArchitectures.map CapabilityDefinition.versioned) :=
    ⟨fun _ _ _ _ _ => rfl, fun _ _ _ _ _ => rfl⟩
  have hinjective : backwards.OneToOne :=
    ⟨fun _ _ _ => List.reverse_injective, fun _ => List.reverse_injective⟩
  have hcheck : configMappedTwice.check imagesDeclaredTwice twoArchitectures (.root "spec") = [] := by
    rfl
  exact ⟨hfollows, hinjective, hcheck, ((check_of_reordering hfollows).2 hinjective).mpr hcheck⟩

/-! A flavor of the provider that states the values of a definition. -/

def configListing (values : List String) : CloudProfileConfig :=
  { configMappedTwice with
    machineImages := [
      { name := "ubuntu"
        versions := [
          { version := "22.04", image := "", regions := []
            capabilityFlavors := [
              { capabilities := Dict.ofList [("architecture", ⟨values⟩)], image := ""
                regions := [{ name := "eu", id := "1", architecture := none }] }] }] }] }

/-- **One list alone must not change its order.** -/
theorem check_configListing_ne_nil :
    ["arm64", "amd64"].Perm ["amd64", "arm64"] ∧
      (configListing ["amd64", "arm64"]).check imagesDeclaredTwice twoArchitectures (.root "spec") = [] ∧
      (configListing ["arm64", "amd64"]).check imagesDeclaredTwice twoArchitectures (.root "spec") ≠ [] := by
  refine ⟨List.Perm.swap _ _ _, rfl, ?_⟩
  decide

end CloudProfileConfig

end OpenstackAdmission
