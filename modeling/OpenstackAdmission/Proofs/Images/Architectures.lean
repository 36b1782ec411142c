import OpenstackAdmission.Proofs.Images.Sides
import OpenstackAdmission.Proofs.Report.Census

/-!
# Images by architecture

Where a profile has no capabilities, its images match those of the provider by architecture. Every version is
compared with the first declaration of its pair on the other side.

> `byArchitecture_check_exact`: the check finds nothing exactly if the two sides match; else each fault gives
> one error, in the place where it is, and nothing else does.

A profile that passes offers and maps the same architectures of the same versions of the same images
(`ArchitecturesMatch.offers_iff_maps`), although versions and images may be declared more than once. Beside a
parent, this holds of the versions that the provider maps (`offersArchitecture_iff_of_mapped`).
-/

namespace OpenstackAdmission

/-- The images of a profile without parent and without capabilities beside those of its provider. -/
def ImageMatrix.byArchitecture (profile : List MachineImage) (provider : List ProviderImage)
    (profileKind : String) : ImageMatrix where
  profileImages := profile
  providerImages := provider
  parentImages := []
  definitions := []
  profileKind

/-- The profile offers an architecture of a version of an image. -/
def OffersArchitecture (profile : List MachineImage) (name version architecture : String) : Prop :=
  ∃ d ∈ declarations profile, d.1 = name ∧ d.2.version = version ∧
    architecture ∈ d.2.publishedArchitectures

/-- The provider has an image of an architecture of a version in some region. -/
def MapsArchitecture (provider : List ProviderImage) (name version architecture : String) : Prop :=
  ∃ d ∈ declarations provider, d.1 = name ∧ d.2.version = version ∧
    ∃ region ∈ d.2.regions, region.effectiveArchitecture = architecture

/-- The two sides match by architecture. -/
structure ArchitecturesMatch (profile : List MachineImage) (provider : List ProviderImage) :
    Prop where
  /-- Every image of the profile is an image of the provider. -/
  images : ∀ image ∈ profile, ∃ provided ∈ provider, provided.name = image.name
  /-- Both sides declare the same versions. -/
  declared : ∀ name version, Declares profile name version ↔ Declares provider name version
  /-- The first declaration of the provider has every architecture of every declaration of the profile. -/
  covered : ∀ d ∈ declarations profile, ∀ provided,
    firstDeclared? provider d.1 d.2.version = some provided →
      ∀ architecture ∈ d.2.publishedArchitectures,
        ∃ region ∈ provided.regions, region.effectiveArchitecture = architecture
  /-- Every region of every declaration of the provider has an architecture of the first declaration of the
  profile. -/
  offered : ∀ d ∈ declarations provider, ∀ offered,
    firstDeclared? profile d.1 d.2.version = some offered →
      ∀ region ∈ d.2.regions, region.effectiveArchitecture ∈ offered.publishedArchitectures

/-- What can be wrong, and where: image `i`, its version `j`, and of this the architecture or the region. -/
inductive ArchitectureFault where
  /-- The provider has no image of the name. -/
  | unmappedImage (i : Nat)
  /-- The provider has the image but does not declare the version. -/
  | unmappedVersion (i j : Nat)
  /-- No region has the architecture. -/
  | uncovered (i j architecture : Nat)
  /-- The profile does not declare the version of the provider. -/
  | undeclared (i j : Nat)
  /-- The profile does not offer the architecture of the region. -/
  | excess (i j region : Nat)

namespace ArchitectureFault

/-- The fault is there. -/
def Occurs (profile : List MachineImage) (provider : List ProviderImage) :
    ArchitectureFault → Prop
  | .unmappedImage i =>
    ∃ image, profile[i]? = some image ∧ ∀ provided ∈ provider, provided.name ≠ image.name
  | .unmappedVersion i j =>
    ∃ image, profile[i]? = some image ∧ (∃ provided ∈ provider, provided.name = image.name) ∧
      ∃ v, image.versions[j]? = some v ∧ ¬ Declares provider image.name v.version
  | .uncovered i j k =>
    ∃ image, profile[i]? = some image ∧ ∃ v, image.versions[j]? = some v ∧
      ∃ provided, firstDeclared? provider image.name v.version = some provided ∧
        ∃ architecture, v.publishedArchitectures[k]? = some architecture ∧
          ∀ region ∈ provided.regions, region.effectiveArchitecture ≠ architecture
  | .undeclared i j =>
    ∃ image, provider[i]? = some image ∧ ∃ v, image.versions[j]? = some v ∧
      ¬ Declares profile image.name v.version
  | .excess i j r =>
    ∃ image, provider[i]? = some image ∧ ∃ v, image.versions[j]? = some v ∧
      ∃ offered, firstDeclared? profile image.name v.version = some offered ∧
        ∃ region, v.regions[r]? = some region ∧
          region.effectiveArchitecture ∉ offered.publishedArchitectures

/-- The error of a fault: a requirement on the side that declares too much for the other, and a prohibition of
an excess region. -/
def Reports (profilePath providerPath : FieldPath) : ArchitectureFault → FieldError → Prop
  | .unmappedImage i, e => ∃ detail, e = .required (profilePath.index i) detail
  | .unmappedVersion i j, e =>
    ∃ detail, e = .required (((profilePath.index i).child "versions").index j) detail
  | .uncovered i j _, e =>
    ∃ detail, e = .required (((profilePath.index i).child "versions").index j) detail
  | .undeclared i j, e =>
    ∃ detail, e = .required (((providerPath.index i).child "versions").index j) detail
  | .excess i j r, e =>
    ∃ detail, e = .forbidden
      (((((providerPath.index i).child "versions").index j).child "regions").index r) detail

end ArchitectureFault

namespace ImageMatrix

variable {profile : List MachineImage} {provider : List ProviderImage} {kind : String}
  {profilePath providerPath : FieldPath}

/-! ## The side of the profile -/

/-- The faults of version `j` of image `i` of the profile, if the provider has the image. -/
def profileVersionFaults (provider : List ProviderImage) (i j : Nat) (name : String)
    (v : MachineImageVersion) (fault : ArchitectureFault) : Prop :=
  (¬ Declares provider name v.version ∧ fault = .unmappedVersion i j) ∨
    ∃ provided, firstDeclared? provider name v.version = some provided ∧
      ∃ k architecture, v.publishedArchitectures[k]? = some architecture ∧
        (∀ region ∈ provided.regions, region.effectiveArchitecture ≠ architecture) ∧
          fault = .uncovered i j k

/-- The faults of image `i` of the profile. -/
def profileImageFaults (provider : List ProviderImage) (i : Nat) (image : MachineImage)
    (fault : ArchitectureFault) : Prop :=
  ((∀ provided ∈ provider, provided.name ≠ image.name) ∧ fault = .unmappedImage i) ∨
    ((∃ provided ∈ provider, provided.name = image.name) ∧
      ∃ j v, image.versions[j]? = some v ∧ profileVersionFaults provider i j image.name v fault)

/-- A fault of a version knows the image and the version. -/
theorem profileVersionFaults_index {i j i' j' : Nat} {name name' : String}
    {v v' : MachineImageVersion} {fault : ArchitectureFault}
    (h : profileVersionFaults provider i j name v fault)
    (h' : profileVersionFaults provider i' j' name' v' fault) : i = i' ∧ j = j' := by
  rcases h with ⟨-, rfl⟩ | ⟨_, _, _, _, _, _, rfl⟩ <;>
    rcases h' with ⟨-, h'⟩ | ⟨_, _, _, _, _, _, h'⟩ <;>
      cases h' <;> exact ⟨rfl, rfl⟩

/-- A fault of an image knows the image. It is missing, or the fault is one of its versions, which know
their image too. -/
theorem profileImageFaults_index {i i' : Nat} {image image' : MachineImage}
    {fault : ArchitectureFault} (h : profileImageFaults provider i image fault)
    (h' : profileImageFaults provider i' image' fault) : i = i' := by
  rcases h with ⟨-, rfl⟩ | ⟨-, j, v, -, h⟩
  · rcases h' with ⟨-, h'⟩ | ⟨-, j', v', -, h'⟩
    · exact ArchitectureFault.unmappedImage.inj h'
    · rcases h' with ⟨-, h'⟩ | ⟨_, _, _, _, _, _, h'⟩ <;> cases h'
  · rcases h' with ⟨-, rfl⟩ | ⟨-, j', v', -, h'⟩
    · rcases h with ⟨-, h⟩ | ⟨_, _, _, _, _, _, h⟩ <;> cases h
    · exact (profileVersionFaults_index h h').1

/-- Architectures are compared one by one with the regions of the first declaration. Equal architectures
stand at different places of the version, so each of them is a fault of its own. -/
theorem census_checkCovered (i j : Nat) (name : String) {v : MachineImageVersion}
    {provided : ProviderImageVersion}
    (hfirst : firstDeclared? provider name v.version = some provided) :
    Census (profileVersionFaults provider i j name v)
      (ArchitectureFault.Reports profilePath providerPath)
      ((byArchitecture profile provider kind).checkCovered name v provided
        (((profilePath.index i).child "versions").index j)) := by
  have hdeclares := declares_of_firstDeclared? hfirst
  obtain ⟨detail, hcheck⟩ := checkCovered_of_noDefinitions
    (m := byArchitecture profile provider kind) rfl name v provided
    (((profilePath.index i).child "versions").index j)
  rw [hcheck]
  refine (census_filter_map (fun k => ArchitectureFault.uncovered i j k) ?_ ?_).congr fun fault => ?_
  · intro k l h
    exact (ArchitectureFault.uncovered.inj h).2.2
  · intro k architecture _
    exact ⟨_, rfl⟩
  · simp [profileVersionFaults, hfirst, hdeclares]

/-- A version of the profile has the one fault that the provider does not declare it, or it has those of its
architectures. -/
theorem census_checkProfileVersion (i j : Nat) (name : String) (v : MachineImageVersion) :
    Census (profileVersionFaults provider i j name v)
      (ArchitectureFault.Reports profilePath providerPath)
      ((byArchitecture profile provider kind).checkProfileVersion name
        (((profilePath.index i).child "versions").index j) v) := by
  by_cases h : Declares provider name v.version
  · obtain ⟨provided, hfirst⟩ := exists_firstDeclared? h
    rw [checkProfileVersion_of_first hfirst]
    exact census_checkCovered i j name hfirst
  · -- there is nothing to compare with, so this is the only fault of the version
    obtain ⟨detail, hcheck⟩ := checkProfileVersion_of_undeclared
      (byArchitecture profile provider kind) (((profilePath.index i).child "versions").index j) h
      not_declares_nil
    rw [hcheck]
    refine census_singleton (ArchitectureFault.unmappedVersion i j) (fun fault => ?_) ⟨_, rfl⟩
    simp [profileVersionFaults, h, firstDeclared?_eq_none_iff.mpr h]

/-- An image that the provider does not have is one fault, whatever versions it has. Those of another one
are the faults of the image. -/
theorem census_checkProfileImage (i : Nat) (image : MachineImage) :
    Census (profileImageFaults provider i image)
      (ArchitectureFault.Reports profilePath providerPath)
      ((byArchitecture profile provider kind).checkProfileImage (profilePath.index i) image) := by
  by_cases h : ∃ provided ∈ provider, provided.name = image.name
  · have hpresent : ¬ ∀ provided ∈ provider, provided.name ≠ image.name := by
      obtain ⟨provided, hmem, hname⟩ := h
      exact fun hnone => hnone provided hmem hname
    rw [checkProfileImage_of_present h]
    refine (census_checkEach (fun j v => profileVersionFaults provider i j image.name v)
      ?_ ?_).congr fun fault => ?_
    · intro j v _
      exact census_checkProfileVersion i j image.name v
    · intro j j' v v' fault hj hj'
      exact (profileVersionFaults_index hj hj').2
    · unfold profileImageFaults
      rw [and_iff_right h]
      simp only [hpresent, false_and, false_or]
  · -- the versions of a missing image are not looked at
    have hmissing : ∀ provided ∈ provider, provided.name ≠ image.name :=
      fun provided hmem hname => h ⟨provided, hmem, hname⟩
    obtain ⟨detail, hcheck⟩ := checkProfileImage_of_missing
      (byArchitecture profile provider kind) (profilePath.index i) rfl hmissing
    rw [hcheck]
    refine census_singleton (ArchitectureFault.unmappedImage i) (fun fault => ?_) ⟨_, rfl⟩
    unfold profileImageFaults
    simp only [h, false_and, or_false, and_iff_right hmissing]

/-! ## The side of the provider -/

/-- The faults of version `j` of image `i` of the provider. -/
def providerVersionFaults (profile : List MachineImage) (i j : Nat) (name : String)
    (v : ProviderImageVersion) (fault : ArchitectureFault) : Prop :=
  (¬ Declares profile name v.version ∧ fault = .undeclared i j) ∨
    ∃ offered, firstDeclared? profile name v.version = some offered ∧
      ∃ r region, v.regions[r]? = some region ∧
        region.effectiveArchitecture ∉ offered.publishedArchitectures ∧ fault = .excess i j r

/-- The faults of image `i` of the provider. -/
def providerImageFaults (profile : List MachineImage) (i : Nat) (image : ProviderImage)
    (fault : ArchitectureFault) : Prop :=
  ∃ j v, image.versions[j]? = some v ∧ providerVersionFaults profile i j image.name v fault

/-- A fault of a version of the provider knows the image and the version, by which the faults of different
versions are apart. -/
theorem providerVersionFaults_index {i j i' j' : Nat} {name name' : String}
    {v v' : ProviderImageVersion} {fault : ArchitectureFault}
    (h : providerVersionFaults profile i j name v fault)
    (h' : providerVersionFaults profile i' j' name' v' fault) : i = i' ∧ j = j' := by
  rcases h with ⟨-, rfl⟩ | ⟨_, _, _, _, _, _, rfl⟩ <;>
    rcases h' with ⟨-, h'⟩ | ⟨_, _, _, _, _, _, h'⟩ <;>
      cases h' <;> exact ⟨rfl, rfl⟩

/-- Regions are compared one by one with the first declaration of the profile, and each that is too much has
its own place. -/
theorem census_checkExcess (i j : Nat) (name : String) {v : ProviderImageVersion}
    {offered : MachineImageVersion}
    (hfirst : firstDeclared? profile name v.version = some offered) :
    Census (providerVersionFaults profile i j name v)
      (ArchitectureFault.Reports profilePath providerPath)
      ((byArchitecture profile provider kind).checkExcess name offered v
        (((providerPath.index i).child "versions").index j)) := by
  have hdeclares := declares_of_firstDeclared? hfirst
  obtain ⟨detail, hcheck⟩ := checkExcess_of_noDefinitions
    (m := byArchitecture profile provider kind) rfl name offered v
    (((providerPath.index i).child "versions").index j)
  rw [hcheck]
  refine (census_checkEach (fun r region fault =>
    region.effectiveArchitecture ∉ offered.publishedArchitectures ∧
      fault = ArchitectureFault.excess i j r) ?_ ?_).congr fun fault => ?_
  · intro r region _
    exact census_errorIf (ArchitectureFault.excess i j r)
      (fun other => by rw [decide_eq_true_eq]) ⟨_, rfl⟩
  · rintro r r' region region' fault ⟨-, rfl⟩ ⟨-, h⟩
    exact (ArchitectureFault.excess.inj h).2.2
  · simp [providerVersionFaults, hfirst, hdeclares]

/-- A version of the provider has the one fault that the profile does not declare it, or it has those of its
regions. -/
theorem census_checkProviderVersion (i j : Nat) (name : String) (v : ProviderImageVersion) :
    Census (providerVersionFaults profile i j name v)
      (ArchitectureFault.Reports profilePath providerPath)
      ((byArchitecture profile provider kind).checkProviderVersion name
        (((providerPath.index i).child "versions").index j) v) := by
  by_cases h : Declares profile name v.version
  · obtain ⟨offered, hfirst⟩ := exists_firstDeclared? h
    rw [checkProviderVersion_of_first hfirst]
    exact census_checkExcess i j name hfirst
  · obtain ⟨detail, hcheck⟩ := checkProviderVersion_of_undeclared
      (byArchitecture profile provider kind) (((providerPath.index i).child "versions").index j) h
    rw [hcheck]
    refine census_singleton (ArchitectureFault.undeclared i j) (fun fault => ?_) ⟨_, rfl⟩
    simp [providerVersionFaults, h, firstDeclared?_eq_none_iff.mpr h]

/-- The versions of one image together. The provider may declare a pair several times, and each declaration
is checked. -/
theorem census_checkProviderVersions (i : Nat) (image : ProviderImage) :
    Census (providerImageFaults profile i image)
      (ArchitectureFault.Reports profilePath providerPath)
      (checkEach ((providerPath.index i).child "versions") image.versions
        ((byArchitecture profile provider kind).checkProviderVersion image.name)) := by
  refine census_checkEach (fun j v => providerVersionFaults profile i j image.name v) ?_ ?_
  · intro j v _
    exact census_checkProviderVersion i j image.name v
  · intro j j' v v' fault hj hj'
    exact (providerVersionFaults_index hj hj').2

/-! ## Both sides -/

/-- A fault is on the side of the profile or on that of the provider. -/
theorem faults_iff_occurs (profile : List MachineImage) (provider : List ProviderImage)
    (fault : ArchitectureFault) :
    ((∃ i image, profile[i]? = some image ∧ profileImageFaults provider i image fault) ∨
        ∃ i image, provider[i]? = some image ∧ providerImageFaults profile i image fault) ↔
      fault.Occurs profile provider := by
  unfold profileImageFaults providerImageFaults profileVersionFaults providerVersionFaults
  cases fault with
  | unmappedImage => simp [ArchitectureFault.Occurs]
  | unmappedVersion => simp [ArchitectureFault.Occurs]
  | undeclared => simp [ArchitectureFault.Occurs]
  | excess => simp [ArchitectureFault.Occurs]
  | uncovered i j k =>
    -- The provider has an image where it has a first declaration, so this need not be said.
    simp only [ArchitectureFault.Occurs, reduceCtorEq, and_false, or_false, false_or, exists_false,
      ArchitectureFault.uncovered.injEq]
    constructor
    · rintro ⟨i, image, hi, -, j, v, hj, provided, hfirst, k, architecture, hk, hnone, rfl, rfl, rfl⟩
      exact ⟨image, hi, v, hj, provided, hfirst, architecture, hk, hnone⟩
    · rintro ⟨image, hi, v, hj, provided, hfirst, architecture, hk, hnone⟩
      have hprovided := exists_image_of_declares (declares_of_firstDeclared? hfirst)
      exact ⟨i, image, hi, hprovided, j, v, hj, provided, hfirst, k, architecture, hk, hnone,
        rfl, rfl, rfl⟩

/-- The two sides have different faults. -/
theorem profileFaults_apart {i j : Nat} {image : MachineImage} {image' : ProviderImage}
    {fault : ArchitectureFault} (h : profileImageFaults provider i image fault) :
    ¬ providerImageFaults profile j image' fault := by
  rintro ⟨_, _, -, ⟨-, rfl⟩ | ⟨_, _, _, _, _, _, rfl⟩⟩ <;>
    rcases h with ⟨-, h⟩ | ⟨-, _, _, -, ⟨-, h⟩ | ⟨_, _, _, _, _, _, h⟩⟩ <;>
      cases h

/-- The check reports every fault once and nothing else. -/
theorem census_byArchitecture (profile : List MachineImage) (provider : List ProviderImage)
    (kind : String) (profilePath providerPath : FieldPath) :
    Census (ArchitectureFault.Occurs profile provider)
      (ArchitectureFault.Reports profilePath providerPath)
      ((byArchitecture profile provider kind).check profilePath providerPath) := by
  have hprofile : Census
      (fun fault => ∃ i image, profile[i]? = some image ∧ profileImageFaults provider i image fault)
      (ArchitectureFault.Reports profilePath providerPath)
      (checkEach profilePath profile (byArchitecture profile provider kind).checkProfileImage) :=
    census_checkEach (profileImageFaults provider) (fun i image _ => census_checkProfileImage i image)
      fun _ _ _ _ _ h h' => profileImageFaults_index h h'
  have hprovider : Census
      (fun fault => ∃ i image, provider[i]? = some image ∧ providerImageFaults profile i image fault)
      (ArchitectureFault.Reports profilePath providerPath)
      (checkEach providerPath provider fun path image =>
        checkEach (path.child "versions") image.versions
          ((byArchitecture profile provider kind).checkProviderVersion image.name)) := by
    refine census_checkEach (providerImageFaults profile)
      (fun i image _ => census_checkProviderVersions i image) ?_
    rintro i i' image image' fault ⟨j, v, -, h⟩ ⟨j', v', -, h'⟩
    exact (providerVersionFaults_index h h').1
  refine (census_append hprofile hprovider ?_).congr (faults_iff_occurs profile provider)
  rintro fault ⟨i, image, -, h⟩ ⟨j, image', -, h'⟩
  exact profileFaults_apart h h'

end ImageMatrix

/-! ## Beside a parent -/

namespace ImageMatrix

/-- Where nothing is found, a version that the provider maps has the same architectures on both sides, whatever
a parent maps. -/
theorem offersArchitecture_iff_of_mapped {m : ImageMatrix} {profilePath providerPath : FieldPath}
    (hnone : m.definitions = []) (h : m.check profilePath providerPath = []) {name version : String}
    (hmapped : Declares m.providerImages name version) (architecture : String) :
    OffersArchitecture m.profileImages name version architecture ↔
      MapsArchitecture m.providerImages name version architecture := by
  refine exists_declared_iff (fun v : MachineImageVersion => architecture ∈ v.publishedArchitectures)
    (fun v : ProviderImageVersion => ∃ region ∈ v.regions, region.effectiveArchitecture = architecture)
    ?_ ?_
  · intro d hd hname hversion harchitecture
    subst hname hversion
    obtain ⟨provided, path, hfirst, hcovered⟩ := covered_of_mapped h hd hmapped
    exact ⟨provided, hfirst, exists_region_of_checkCovered hnone hcovered harchitecture⟩
  · intro d hd hname hversion hmaps
    subst hname hversion
    obtain ⟨region, hregion, rfl⟩ := hmaps
    obtain ⟨offered, path, hfirst, hwithin⟩ := within_of_check h hd
    exact ⟨offered, hfirst, offered_of_checkExcess hnone hwithin hregion⟩

end ImageMatrix

/-! ## The match -/

section Match

variable {profile : List MachineImage} {provider : List ProviderImage}

/-- The two sides match where nothing is wrong at any index. -/
theorem architecturesMatch_of_not_occurs
    (h : ∀ fault : ArchitectureFault, ¬ fault.Occurs profile provider) :
    ArchitecturesMatch profile provider := by
  have himages : ∀ image ∈ profile, ∃ provided ∈ provider, provided.name = image.name := by
    intro image himage
    obtain ⟨i, hi⟩ := List.mem_iff_getElem?.mp himage
    by_contra hnone
    exact h (.unmappedImage i)
      ⟨image, hi, fun provided hprovided hname => hnone ⟨provided, hprovided, hname⟩⟩
  -- what is said of a declaration in the list is said of its indices first, where a fault would be
  refine ⟨himages, ?_, ?_, ?_⟩
  · intro name version
    constructor
    · -- the image of an undeclared version is there, so the fault is that of the version
      rintro ⟨d, hd, rfl, rfl⟩
      obtain ⟨i, image, hi, j, v, hj, rfl⟩ := mem_declarations_iff_getElem?.mp hd
      by_contra hnone
      exact h (.unmappedVersion i j)
        ⟨image, hi, himages image (List.mem_of_getElem? hi), v, hj, hnone⟩
    · rintro ⟨d, hd, rfl, rfl⟩
      obtain ⟨i, image, hi, j, v, hj, rfl⟩ := mem_declarations_iff_getElem?.mp hd
      by_contra hnone
      exact h (.undeclared i j) ⟨image, hi, v, hj, hnone⟩
  · intro d hd provided hfirst architecture harchitecture
    obtain ⟨i, image, hi, j, v, hj, rfl⟩ := mem_declarations_iff_getElem?.mp hd
    obtain ⟨k, hk⟩ := List.mem_iff_getElem?.mp harchitecture
    by_contra hnone
    exact h (.uncovered i j k) ⟨image, hi, v, hj, provided, hfirst, architecture, hk,
      fun region hregion heq => hnone ⟨region, hregion, heq⟩⟩
  · intro d hd offered hfirst region hregion
    obtain ⟨i, image, hi, j, v, hj, rfl⟩ := mem_declarations_iff_getElem?.mp hd
    obtain ⟨r, hr⟩ := List.mem_iff_getElem?.mp hregion
    by_contra hnone
    exact h (.excess i j r) ⟨image, hi, v, hj, offered, hfirst, region, hr, hnone⟩

namespace ArchitecturesMatch

/-- Nothing is wrong where the two sides match. -/
theorem not_occurs (h : ArchitecturesMatch profile provider) (fault : ArchitectureFault) :
    ¬ fault.Occurs profile provider := by
  have hprofile {i j : Nat} {image : MachineImage} {v : MachineImageVersion}
      (hi : profile[i]? = some image) (hj : image.versions[j]? = some v) :
      (image.name, v) ∈ declarations profile :=
    mem_declarations_iff_getElem?.mpr ⟨i, image, hi, j, v, hj, rfl⟩
  have hprovider {i j : Nat} {image : ProviderImage} {v : ProviderImageVersion}
      (hi : provider[i]? = some image) (hj : image.versions[j]? = some v) :
      (image.name, v) ∈ declarations provider :=
    mem_declarations_iff_getElem?.mpr ⟨i, image, hi, j, v, hj, rfl⟩
  -- each kind of fault contradicts the part of the match that it is named in
  cases fault with
  | unmappedImage i =>
    rintro ⟨image, hi, hnone⟩
    obtain ⟨provided, hprovided, hname⟩ := h.images image (List.mem_of_getElem? hi)
    exact hnone provided hprovided hname
  | unmappedVersion i j =>
    rintro ⟨image, hi, -, v, hj, hnone⟩
    exact hnone ((h.declared _ _).mp (declares_of_mem (hprofile hi hj)))
  | uncovered i j k =>
    rintro ⟨image, hi, v, hj, provided, hfirst, architecture, hk, hnone⟩
    obtain ⟨region, hregion, heq⟩ :=
      h.covered _ (hprofile hi hj) provided hfirst architecture (List.mem_of_getElem? hk)
    exact hnone region hregion heq
  | undeclared i j =>
    rintro ⟨image, hi, v, hj, hnone⟩
    exact hnone ((h.declared _ _).mpr (declares_of_mem (hprovider hi hj)))
  | excess i j r =>
    rintro ⟨image, hi, v, hj, offered, hfirst, region, hr, hnone⟩
    exact hnone (h.offered _ (hprovider hi hj) offered hfirst region (List.mem_of_getElem? hr))

/-- Sides that match have the same architectures of the same versions of the same images: each side goes
through the first declaration of the other. -/
theorem offers_iff_maps (h : ArchitecturesMatch profile provider)
    (name version architecture : String) :
    OffersArchitecture profile name version architecture ↔
      MapsArchitecture provider name version architecture := by
  refine exists_declared_iff (fun v : MachineImageVersion => architecture ∈ v.publishedArchitectures)
    (fun v : ProviderImageVersion => ∃ region ∈ v.regions, region.effectiveArchitecture = architecture)
    ?_ ?_
  · rintro d hd rfl rfl harchitecture
    obtain ⟨provided, hfirst⟩ := exists_firstDeclared? ((h.declared _ _).mp (declares_of_mem hd))
    exact ⟨provided, hfirst, h.covered d hd provided hfirst architecture harchitecture⟩
  · rintro d hd rfl rfl ⟨region, hregion, rfl⟩
    obtain ⟨offered, hfirst⟩ := exists_firstDeclared? ((h.declared _ _).mpr (declares_of_mem hd))
    exact ⟨offered, hfirst, h.offered d hd offered hfirst region hregion⟩

end ArchitecturesMatch

end Match

/-- **The match by architecture is exact.** The check finds nothing exactly if the two sides match; then they
have the same architectures of the same versions of the same images. Else it reports every fault once, in the
place where it is, and nothing else. -/
theorem byArchitecture_check_exact (profile : List MachineImage) (provider : List ProviderImage)
    (kind : String) (profilePath providerPath : FieldPath) :
    ((ImageMatrix.byArchitecture profile provider kind).check profilePath providerPath = [] ↔
        ArchitecturesMatch profile provider ∧
          ∀ name version architecture, OffersArchitecture profile name version architecture ↔
            MapsArchitecture provider name version architecture) ∧
      Census (ArchitectureFault.Occurs profile provider)
        (ArchitectureFault.Reports profilePath providerPath)
        ((ImageMatrix.byArchitecture profile provider kind).check profilePath providerPath) := by
  have hcensus := ImageMatrix.census_byArchitecture profile provider kind profilePath providerPath
  refine ⟨?_, hcensus⟩
  rw [hcensus.eq_nil_iff]
  constructor
  · intro hnone
    have hmatch := architecturesMatch_of_not_occurs hnone
    exact ⟨hmatch, hmatch.offers_iff_maps⟩
  · rintro ⟨hmatch, -⟩
    exact hmatch.not_occurs

/-! Images that match, with one version declared twice; and images with one fault of each kind. -/

/-- A version for architectures. -/
def offeredVersion (version : String) (architectures : List String) : MachineImageVersion :=
  ⟨version, none, architectures, []⟩

/-- A version with an image for each of some architectures. -/
def mappedVersion (version : String) (architectures : List (Option String)) : ProviderImageVersion :=
  ⟨version, "", architectures.map fun architecture => ⟨"eu-1", "5e9f", architecture⟩, []⟩

def offeredImages : List MachineImage :=
  [⟨"ubuntu", [offeredVersion "22.04" ["amd64", "arm64"]]⟩, ⟨"ubuntu", [offeredVersion "22.04" []]⟩]

def mappedImages : List ProviderImage := [⟨"ubuntu", [mappedVersion "22.04" [none, some "arm64"]]⟩]

def offeredImagesWithFaults : List MachineImage :=
  [⟨"ubuntu", [offeredVersion "22.04" [], offeredVersion "24.04" ["amd64", "arm64"]]⟩,
    ⟨"suse", [offeredVersion "15" []]⟩, ⟨"flatcar", [offeredVersion "1" []]⟩]

def mappedImagesWithFaults : List ProviderImage :=
  [⟨"ubuntu", [mappedVersion "22.04" [none, some "arm64"], mappedVersion "24.04" [some "arm64"]]⟩,
    ⟨"flatcar", [mappedVersion "2" [none]]⟩]

/-- The two sides match, although the second declaration of the version offers less, and all that is offered is mapped.
The other two sides have five faults, each of which is reported in its place. -/
theorem byArchitecture_check_offeredImages :
    ArchitecturesMatch offeredImages mappedImages ∧
      MapsArchitecture mappedImages "ubuntu" "22.04" "arm64" ∧
      (∃ faults : List ArchitectureFault, faults.Nodup ∧ faults.length = 5 ∧
        ∀ fault, fault ∈ faults ↔ fault.Occurs offeredImagesWithFaults mappedImagesWithFaults) ∧
      ((ImageMatrix.byArchitecture offeredImagesWithFaults mappedImagesWithFaults "CloudProfile").check
          (.ofFields ["spec", "machineImages"]) (.ofFields ["config", "machineImages"])).map (·.path.text) =
        ["spec.machineImages[0].versions[1]", "spec.machineImages[1]", "spec.machineImages[2].versions[0]",
          "config.machineImages[0].versions[0].regions[1]", "config.machineImages[1].versions[0]"] := by
  have hmatch := byArchitecture_check_exact offeredImages mappedImages "CloudProfile"
    (.ofFields ["spec", "machineImages"]) (.ofFields ["config", "machineImages"])
  have hfaults := byArchitecture_check_exact offeredImagesWithFaults mappedImagesWithFaults "CloudProfile"
    (.ofFields ["spec", "machineImages"]) (.ofFields ["config", "machineImages"])
  obtain ⟨hsides, hsame⟩ := hmatch.1.mp rfl
  obtain ⟨faults, hnodup, hoccurs, hreports⟩ := hfaults.2
  have hoffers : OffersArchitecture offeredImages "ubuntu" "22.04" "arm64" :=
    ⟨("ubuntu", offeredVersion "22.04" ["amd64", "arm64"]), .head _, rfl, rfl, by decide⟩
  refine ⟨hsides, (hsame _ _ _).mp hoffers, ⟨faults, hnodup, ?_, hoccurs⟩, ?_⟩
  · exact hreports.length_eq.trans rfl
  · decide +kernel

end OpenstackAdmission
