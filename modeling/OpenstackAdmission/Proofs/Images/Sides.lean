import OpenstackAdmission.Images.Matrix
import OpenstackAdmission.Proofs.Images.Declarations

/-!
# The two sides of a match

What the check of images does at each place, said by declarations: where the other side does not declare a
version, there is one error that requires it; else the version is compared with the first declaration of the
other side. A profile without parent has no other source of images than its provider.
-/

namespace OpenstackAdmission.ImageMatrix

variable {m : ImageMatrix} {name : String} {path : FieldPath}

/-! ## The side of the profile -/

section Profile

variable {v : MachineImageVersion} {image : MachineImage}

/-- A version that the provider declares is compared with the first declaration. -/
theorem checkProfileVersion_of_first {provided : ProviderImageVersion}
    (h : firstDeclared? m.providerImages name v.version = some provided) :
    m.checkProfileVersion name path v = m.checkCovered name v provided path := by
  unfold checkProfileVersion
  rw [findVersion?_eq_firstDeclared?, h]

/-- A version that neither the provider nor a parent declares is one error, which asks for it. -/
theorem checkProfileVersion_of_undeclared (m : ImageMatrix) (path : FieldPath)
    (h : ¬ Declares m.providerImages name v.version)
    (hparent : ¬ Declares m.parentImages name v.version) :
    ∃ detail, m.checkProfileVersion name path v = [.required path detail] := by
  unfold checkProfileVersion
  rw [findVersion?_eq_firstDeclared?, findVersion?_eq_firstDeclared?,
    firstDeclared?_eq_none_iff.mpr h, firstDeclared?_eq_none_iff.mpr hparent]
  exact ⟨_, rfl⟩

/-- Without a parent, an image that the provider does not have is one error, and its versions are not looked
at. -/
theorem checkProfileImage_of_missing (m : ImageMatrix) (path : FieldPath)
    (hparent : m.parentImages = []) (h : ∀ provided ∈ m.providerImages, provided.name ≠ image.name) :
    ∃ detail, m.checkProfileImage path image = [.required path detail] := by
  have hnone : findImage? m.providerImages image.name = none := findImage?_eq_none_iff.mpr h
  unfold checkProfileImage
  rw [hnone, hparent]
  exact ⟨_, rfl⟩

/-- The versions of an image are looked at as soon as the provider has some image of the name. -/
theorem checkProfileImage_of_present
    (h : ∃ provided ∈ m.providerImages, provided.name = image.name) :
    m.checkProfileImage path image =
      checkEach (path.child "versions") image.versions (m.checkProfileVersion image.name) := by
  obtain ⟨provided, hmem, hname⟩ := h
  have hfound : (findImage? m.providerImages image.name).isNone = false := by
    refine Bool.eq_false_iff.mpr fun hnone => ?_
    exact findImage?_eq_none_iff.mp (Option.isNone_iff_eq_none.mp hnone) provided hmem hname
  unfold checkProfileImage
  rw [hfound, Bool.false_and]
  exact if_neg Bool.false_ne_true

/-- Where nothing is found, every version of the profile is covered by the first declaration of the provider,
or it is that of the parent. -/
theorem covered_of_check {profilePath providerPath : FieldPath}
    (h : m.check profilePath providerPath = []) {d : String × MachineImageVersion}
    (hd : d ∈ declarations m.profileImages) :
    (∃ provided path, firstDeclared? m.providerImages d.1 d.2.version = some provided ∧
        m.checkCovered d.1 d.2 provided path = []) ∨
      ¬ Declares m.providerImages d.1 d.2.version ∧ Declares m.parentImages d.1 d.2.version := by
  obtain ⟨image, himage, v, hv, rfl⟩ := mem_declarations.mp hd
  obtain ⟨i, hi⟩ := check_eq_nil_of_checkEach (List.append_eq_nil_iff.mp h).1 himage
  unfold checkProfileImage at hi
  split at hi
  · cases hi
  · obtain ⟨j, hj⟩ := check_eq_nil_of_checkEach hi hv
    -- a version that is declared is compared; one that is not is an error unless it is that of the
    -- parent
    by_cases hdeclared : Declares m.providerImages image.name v.version
    · obtain ⟨provided, hfirst⟩ := exists_firstDeclared? hdeclared
      rw [checkProfileVersion_of_first hfirst] at hj
      exact .inl ⟨provided, _, hfirst, hj⟩
    · refine .inr ⟨hdeclared, Classical.byContradiction fun hparent => ?_⟩
      obtain ⟨detail, hcheck⟩ := checkProfileVersion_of_undeclared m _ hdeclared hparent
      rw [hcheck] at hj
      cases hj

/-- Where nothing is found, a version that the provider declares covers every declaration of the profile. -/
theorem covered_of_mapped {profilePath providerPath : FieldPath}
    (h : m.check profilePath providerPath = []) {d : String × MachineImageVersion}
    (hd : d ∈ declarations m.profileImages) (hmapped : Declares m.providerImages d.1 d.2.version) :
    ∃ provided path, firstDeclared? m.providerImages d.1 d.2.version = some provided ∧
      m.checkCovered d.1 d.2 provided path = [] := by
  rcases covered_of_check h hd with hcovered | hinherited
  · exact hcovered
  · exact absurd hmapped hinherited.1

/-- Without capabilities, a version lacks what no region has. -/
theorem checkCovered_of_noDefinitions (hnone : m.definitions = []) (name : String)
    (v : MachineImageVersion) (provided : ProviderImageVersion) (path : FieldPath) :
    ∃ detail : String → String, m.checkCovered name v provided path =
      (uncoveredArchitectures v provided).map fun architecture =>
        .required path (detail architecture) := by
  unfold checkCovered
  rw [if_pos hnone]
  exact ⟨_, rfl⟩

/-- Without capabilities, a covered version has a region for each of its architectures. -/
theorem exists_region_of_checkCovered (hnone : m.definitions = []) {provided : ProviderImageVersion}
    (h : m.checkCovered name v provided path = []) {architecture : String}
    (harchitecture : architecture ∈ v.publishedArchitectures) :
    ∃ region ∈ provided.regions, region.effectiveArchitecture = architecture := by
  obtain ⟨detail, hcheck⟩ := checkCovered_of_noDefinitions hnone name v provided path
  rw [hcheck, List.map_eq_nil_iff] at h
  unfold uncoveredArchitectures at h
  have hany := List.filter_eq_nil_iff.mp h architecture harchitecture
  simpa using hany

/-- With capabilities, a version is covered if its flavors convert and the provider has all of them. -/
theorem checkCovered_eq_nil_iff (hsome : m.definitions ≠ []) {provided : ProviderImageVersion} :
    m.checkCovered name v provided path = [] ↔
      ∃ flavors, m.profileFlavors v = .ok flavors ∧
        ∀ flavor ∈ flavors, flavor ∈ m.providerFlavors provided := by
  unfold checkCovered
  rw [if_neg hsome]
  cases h : m.profileFlavors v with
  | error e => simp
  | ok flavors => simp

end Profile

/-! ## The side of the provider -/

section Provider

variable {v : ProviderImageVersion}

theorem checkProviderVersion_of_first {offered : MachineImageVersion}
    (h : firstDeclared? m.profileImages name v.version = some offered) :
    m.checkProviderVersion name path v = m.checkExcess name offered v path := by
  unfold checkProviderVersion
  rw [findVersion?_eq_firstDeclared?, h]

/-- A version that the profile does not offer is one error. A parent makes no difference here. -/
theorem checkProviderVersion_of_undeclared (m : ImageMatrix) (path : FieldPath)
    (h : ¬ Declares m.profileImages name v.version) :
    ∃ detail, m.checkProviderVersion name path v = [.required path detail] := by
  unfold checkProviderVersion
  rw [findVersion?_eq_firstDeclared?, firstDeclared?_eq_none_iff.mpr h]
  exact ⟨_, rfl⟩

/-- Where nothing is found, no version of the provider exceeds the first declaration of the profile. -/
theorem within_of_check {profilePath providerPath : FieldPath}
    (h : m.check profilePath providerPath = []) {d : String × ProviderImageVersion}
    (hd : d ∈ declarations m.providerImages) :
    ∃ offered path, firstDeclared? m.profileImages d.1 d.2.version = some offered ∧
      m.checkExcess d.1 offered d.2 path = [] := by
  obtain ⟨image, himage, v, hv, rfl⟩ := mem_declarations.mp hd
  obtain ⟨i, hi⟩ := check_eq_nil_of_checkEach (List.append_eq_nil_iff.mp h).2 himage
  obtain ⟨j, hj⟩ := check_eq_nil_of_checkEach hi hv
  by_cases hdeclared : Declares m.profileImages image.name v.version
  · obtain ⟨offered, hfirst⟩ := exists_firstDeclared? hdeclared
    rw [checkProviderVersion_of_first hfirst] at hj
    exact ⟨offered, _, hfirst, hj⟩
  · obtain ⟨detail, hcheck⟩ := checkProviderVersion_of_undeclared m _ hdeclared
    rw [hcheck] at hj
    cases hj

/-- Without capabilities, a region is in excess if its architecture is not offered. -/
theorem checkExcess_of_noDefinitions (hnone : m.definitions = []) (name : String)
    (offered : MachineImageVersion) (v : ProviderImageVersion) (path : FieldPath) :
    ∃ detail : RegionImage → String, m.checkExcess name offered v path =
      checkEach (path.child "regions") v.regions fun path region =>
        errorIf (region.effectiveArchitecture ∉ offered.publishedArchitectures)
          (.forbidden path (detail region)) := by
  unfold checkExcess
  rw [if_pos hnone]
  exact ⟨_, rfl⟩

/-- Without capabilities, a version that is not in excess has regions of offered architectures only. -/
theorem offered_of_checkExcess (hnone : m.definitions = []) {offered : MachineImageVersion}
    (h : m.checkExcess name offered v path = []) {region : RegionImage}
    (hregion : region ∈ v.regions) :
    region.effectiveArchitecture ∈ offered.publishedArchitectures := by
  obtain ⟨detail, hcheck⟩ := checkExcess_of_noDefinitions hnone name offered v path
  rw [hcheck] at h
  obtain ⟨i, hi⟩ := check_eq_nil_of_checkEach h hregion
  simpa using hi

/-- With capabilities, nothing is in excess if the flavors of the profile do not convert, or if they have all
flavors of the provider. -/
theorem checkExcess_eq_nil_iff (hsome : m.definitions ≠ []) {offered : MachineImageVersion} :
    m.checkExcess name offered v path = [] ↔
      ∀ flavors, m.profileFlavors offered = .ok flavors →
        ∀ flavor ∈ m.providerFlavors v, flavor ∈ flavors := by
  unfold checkExcess
  rw [if_neg hsome]
  cases h : m.profileFlavors offered with
  | error e => simp
  | ok flavors =>
    simp only [checkEach_eq_nil_iff, errorIf_eq_nil_iff, decide_eq_false_iff_not,
      Classical.not_not, Except.ok.injEq, forall_eq', List.mem_iff_getElem?]
    constructor
    · rintro h flavor ⟨i, hi⟩
      exact h i flavor hi
    · intro h i flavor hi
      exact h flavor ⟨i, hi⟩

end Provider

end OpenstackAdmission.ImageMatrix
