import OpenstackAdmission.Proofs.Admission.Shoot
import OpenstackAdmission.Proofs.Checks.CloudProfile
import OpenstackAdmission.Proofs.Checks.ProfilePlaces

/-!
# Which profiles can be parents

The review of a namespaced profile converts its parent as a whole, and refuses the child where that fails. The
review of the parent itself converts less: the definitions always, the flavors of an image version only where
capabilities are defined, to compare them with those of the provider. Without capabilities images are compared by
architecture, and nothing looks at flavors.

> `usableAsParent_iff_of_review`: a profile that is admitted can be a parent exactly if it defines capabilities or
no flavor of its versions states a capability without values.

In the first case the match of the images has converted every flavor, in the second the flavors convert because
of what they are. The other half is that a child of a parent that converts is only told of its own fields
(`CloudProfileConfig.checkNamespaced_places`).
-/

namespace OpenstackAdmission

/-- The profile can stand as the parent of namespaced profiles. -/
structure CloudProfile.UsableAsParent (profile : CloudProfile) : Prop where
  converts : Versioned.CloudProfileSpec.ofProfile? profile.spec = .ok profile.spec.versioned
  /-- Where a namespaced profile has this one as its parent, no refusal finds fault with the parent. -/
  faultless : ∀ (child : NamespacedCloudProfile) (old : Option Resource) (lookup : Lookup),
    lookup.cloudProfile child.spec.parent.name = some profile →
      ∀ kind object errors,
        (Resource.namespacedCloudProfile child).review old lookup =
            .error (.invalid kind object errors) →
          ∀ e ∈ errors, e.path ≠ specPath.child "parent"

/-! ## The child -/

namespace NamespacedCloudProfile

variable {child : NamespacedCloudProfile} {lookup : Lookup} {errors : List FieldError}

/-- A child that gets as far as being compared with its parent is told of its own fields. -/
theorem path_ne_parent_of_check {parent : CloudProfile} {spec : Versioned.CloudProfileSpec}
    (hparent : lookup.cloudProfile child.spec.parent.name = some parent)
    (hconverts : Versioned.CloudProfileSpec.ofProfile? parent.spec = .ok spec)
    (h : child.check lookup = .ok errors) {e : FieldError} (he : e ∈ errors) :
    e.path ≠ specPath.child "parent" := by
  unfold check Lookup.demandProfile at h
  rw [hparent] at h
  cases hconfig : child.config with
  | error e =>
    rw [hconfig] at h
    cases h
  | ok config =>
    rw [hconfig] at h
    obtain ⟨found, hfound, rfl⟩ := map_eq_ok_iff.mp h
    cases hfound
    -- the parent converts, so the errors are those of the comparison with it
    rw [hconverts] at he
    intro hpath
    have hplaces := CloudProfileConfig.checkNamespaced_places he
    rw [hpath, FieldPath.child_under_child_iff, FieldPath.child_under_child_iff] at hplaces
    exact absurd hplaces (by decide)

/-- Where the configuration of a namespaced profile cannot be read, the error names that profile and not its
parent. -/
theorem cause_of_config_eq_error {e : AdmissionError} (h : child.config = .error e) :
    ∃ cause, e = .badPayload "providerConfig" child.metadata.objectName cause := by
  unfold config at h
  cases hpayload : child.spec.providerConfig with
  | none =>
    rw [hpayload] at h
    cases h
  | some payload =>
    rw [hpayload] at h
    exact cause_of_decodePayload_eq_error h

/-- The check of a child does not end in a refusal for errors of fields. These are its result. -/
theorem check_ne_invalid {kind : ResourceKind} {object : String} :
    child.check lookup ≠ .error (.invalid kind object errors) := by
  intro h
  unfold check at h
  -- the payload and the parent are demanded before any field is checked
  cases hconfig : child.config with
  | error e =>
    rw [hconfig] at h
    obtain ⟨cause, rfl⟩ := cause_of_config_eq_error hconfig
    cases h
  | ok config =>
    rw [hconfig] at h
    unfold Lookup.demandProfile at h
    cases hparent : lookup.cloudProfile child.spec.parent.name with
    | none =>
      rw [hparent] at h
      cases h
    | some parent =>
      rw [hparent] at h
      cases h

end NamespacedCloudProfile

/-! ## The parent -/

namespace CloudProfile

variable {profile : CloudProfile}

/-- A parent that converts is never found fault with. -/
theorem usableAsParent_of_converts
    (h : Versioned.CloudProfileSpec.ofProfile? profile.spec = .ok profile.spec.versioned) :
    profile.UsableAsParent := by
  refine { converts := h, faultless := ?_ }
  intro child old lookup hparent kind object errors hreview e he
  -- errors of fields are the result of the check, and none of them stands at the parent
  rcases Resource.check_of_review_eq_invalid hreview with hcheck | hcheck
  · exact NamespacedCloudProfile.path_ne_parent_of_check hparent h hcheck he
  · exact absurd hcheck NamespacedCloudProfile.check_ne_invalid

/-- A profile without errors has definitions that convert, and images that were checked with them. -/
theorem exists_config_of_check (h : profile.check = .ok []) :
    Versioned.definitionsOfProfile? profile.spec.machineCapabilities =
        .ok profile.spec.versioned.machineCapabilities ∧
      ∃ config : CloudProfileConfig,
        config.checkImages profile.spec.machineImages profile.spec.versioned.machineCapabilities
          specPath = [] := by
  unfold check at h
  cases hpayload : profile.spec.providerConfig with
  | none =>
    rw [hpayload] at h
    cases h
  | some payload =>
    rw [hpayload] at h
    obtain ⟨config, -, hconfig⟩ := map_eq_ok_iff.mp h
    obtain ⟨definitions, hdefinitions, himages⟩ := CloudProfileConfig.checkImages_of_check hconfig
    have hversioned : profile.spec.versioned.machineCapabilities = definitions :=
      (Versioned.definitionsOfProfile?_eq_ok_iff.mp hdefinitions).2
    rw [hversioned]
    exact ⟨hdefinitions, config, himages⟩

/-- Without errors, and with capabilities, all flavors have been compared and so they have converted. -/
theorem nonemptyValues_of_check (hsome : profile.spec.machineCapabilities ≠ [])
    (h : profile.check = .ok []) :
    ∀ d ∈ declarations profile.spec.machineImages, d.2.NonemptyValues := by
  obtain ⟨-, config, himages⟩ := exists_config_of_check h
  have hnonempty : profile.spec.versioned.machineCapabilities ≠ [] :=
    fun hnil => hsome (List.map_eq_nil_iff.mp hnil)
  obtain ⟨-, hmatrix⟩ := List.append_eq_nil_iff.mp himages
  intro d hd
  exact (ImageMatrix.flavors_covered hnonempty rfl hmatrix hd).1

/-- **Which admitted profiles can be parents.** -/
theorem usableAsParent_iff_of_review {old : Option Resource} {lookup : Lookup}
    (hstays : profile.metadata.isDeleting = false)
    (h : (Resource.cloudProfile profile).review old lookup = .ok ()) :
    profile.UsableAsParent ↔
      profile.spec.machineCapabilities ≠ [] ∨
        ∀ d ∈ declarations profile.spec.machineImages, d.2.NonemptyValues := by
  have hcheck : profile.check = .ok [] := Resource.check_eq_ok_nil_of_review h hstays
  constructor
  · intro husable
    obtain ⟨⟨himages, -⟩, -⟩ := Versioned.specOfProfile?_eq_ok_iff.mp husable.converts
    right
    intro d hd
    obtain ⟨image, himage, v, hv, rfl⟩ := mem_declarations.mp hd
    exact himages image himage v hv
  · intro hcase
    have hstated : ∀ d ∈ declarations profile.spec.machineImages, d.2.NonemptyValues := by
      rcases hcase with hsome | hstated
      · exact nonemptyValues_of_check hsome hcheck
      · exact hstated
    -- what is stated converts, and the definitions do because the profile was admitted
    apply usableAsParent_of_converts
    refine Versioned.specOfProfile?_eq_ok_iff.mpr ⟨⟨?_, (exists_config_of_check hcheck).1⟩, rfl⟩
    intro image himage v hv
    exact hstated (image.name, v) (mem_declarations.mpr ⟨image, himage, v, hv, rfl⟩)

end CloudProfile

/-! A profile without capabilities, whose image states one all the same, with the values that are given. -/

def imageStating (values : List String) : MachineImage where
  name := "ubuntu"
  versions := [
    { version := "22.04", classification := none, architectures := []
      capabilityFlavors := [{ capabilities := Dict.ofList [("gpu", values)] }] }]

def configByArchitecture : CloudProfileConfig where
  constraints :=
    { floatingPools := [
        { name := "public", region := none, domain := none, defaultFloatingSubnet := none,
          nonConstraining := none, loadBalancerClasses := [] }]
      loadBalancerProviders := [{ name := "haproxy", region := none }] }
  keystoneURL := "urn:keystone"
  machineImages := [
    { name := "ubuntu"
      versions := [
        { version := "22.04", image := "", capabilityFlavors := []
          regions := [{ name := "eu", id := "1", architecture := none }] }] }]

def profileStating (values : List String) : CloudProfile where
  metadata := { name := some "openstack" }
  spec :=
    { providerType := openstackType, machineImages := [imageStating values]
      machineCapabilities := [], providerConfig := some (encode configByArchitecture) }

/-- A child that adds nothing. -/
def childOfProfile : NamespacedCloudProfile where
  metadata := { name := some "custom", space := some "garden-dev" }
  spec :=
    { parent := { kind := ResourceKind.cloudProfile.name, name := "openstack" }
      machineImages := [], providerConfig := none }

/-- A capability with a value converts, although the profile defines none. -/
theorem usableAsParent_profileStating :
    (profileStating ["a100"]).metadata.isDeleting = false ∧
      (Resource.cloudProfile (profileStating ["a100"])).review none (.ofResources []) = .ok () ∧
      (∀ d ∈ declarations (profileStating ["a100"]).spec.machineImages, d.2.NonemptyValues) ∧
      (profileStating ["a100"]).UsableAsParent := by
  have hreview :
      (Resource.cloudProfile (profileStating ["a100"])).review none (.ofResources []) = .ok () := rfl
  have hstated :
      ∀ d ∈ declarations (profileStating ["a100"]).spec.machineImages, d.2.NonemptyValues := by
    intro d hd
    obtain rfl := List.mem_singleton.mp hd
    intro flavor hflavor
    obtain rfl := List.mem_singleton.mp hflavor
    intro e he
    obtain rfl := List.mem_singleton.mp he
    exact List.cons_ne_nil _ _
  exact ⟨rfl, hreview, hstated, (CloudProfile.usableAsParent_iff_of_review rfl hreview).mpr (.inr hstated)⟩

/-- Without values it is admitted as well, and its child is refused for it. -/
theorem not_usableAsParent_profileStating :
    (profileStating []).metadata.isDeleting = false ∧
      (Resource.cloudProfile (profileStating [])).review none (.ofResources []) = .ok () ∧
      Versioned.CloudProfileSpec.ofProfile? (profileStating []).spec = .error (.emptyValues "gpu") ∧
      (Resource.namespacedCloudProfile childOfProfile).review none
          (.ofResources [.cloudProfile (profileStating [])]) =
        .error (.invalid .namespacedCloudProfile "garden-dev/custom"
          [.internal (specPath.child "parent") (ConversionError.emptyValues "gpu").message]) :=
  ⟨rfl, rfl, rfl, rfl⟩

end OpenstackAdmission
