import OpenstackAdmission.Checks.CloudProfile
import OpenstackAdmission.Proofs.Checks.ProviderImage
import OpenstackAdmission.Proofs.Images.Flavors

/-!
# What an accepted profile configuration has

The check of a configuration is spread over the conversion of the definitions, the check of every image on its
own, and the match of the images with those of the profile, in both directions.

> `flavorsMatch_of_check`: where there are capabilities and nothing is found, the images match by flavor.

Lists of values can be read without a value, and the check of an image takes such lists. That none remains
follows from both directions together.
-/

namespace OpenstackAdmission

/-- The images of a profile and of its provider match by flavor. -/
structure FlavorsMatch (profile : List MachineImage) (provider : List ProviderImage)
    (capabilities : List CapabilityDefinition) : Prop where
  /-- The definitions convert, and so do all flavors of the profile. -/
  defined : Versioned.definitionsOfProfile? capabilities =
    .ok (capabilities.map CapabilityDefinition.versioned)
  stated : ∀ d ∈ declarations profile, d.2.NonemptyValues
  /-- Both sides declare the same versions. -/
  declared : ∀ name version, Declares profile name version ↔ Declares provider name version
  /-- All declarations of a version together have the same flavors on both sides. -/
  flavors : ∀ name version flavor,
    OffersFlavor profile (capabilities.map CapabilityDefinition.versioned) name version flavor ↔
      MapsFlavor provider (capabilities.map CapabilityDefinition.versioned) name version flavor
  /-- All flavors of one declaration are mapped in the same regions. -/
  regions : ∀ d ∈ declarations provider, ∀ flavor ∈ d.2.capabilityFlavors,
    ∀ other ∈ d.2.capabilityFlavors, ∀ region, flavor.Maps region ↔ other.Maps region
  /-- A flavor of the provider states defined capabilities, each with some of its values. -/
  values : ∀ d ∈ declarations provider, ∀ flavor ∈ d.2.capabilityFlavors,
    ∀ e ∈ flavor.capabilities.entries, e.2.values ≠ [] ∧
      ∃ definition ∈ capabilities, definition.name = e.1 ∧
        ∀ value ∈ e.2.values, value ∈ definition.values

namespace CloudProfileConfig

/-- Where nothing is found, the definitions have converted and the images were checked with them. -/
theorem checkImages_of_check {c : CloudProfileConfig} {profileImages : List MachineImage}
    {capabilities : List CapabilityDefinition} {specPath : FieldPath}
    (h : c.check profileImages capabilities specPath = []) :
    ∃ definitions, Versioned.definitionsOfProfile? capabilities = .ok definitions ∧
      c.checkImages profileImages definitions specPath = [] := by
  obtain ⟨-, himages⟩ := List.append_eq_nil_iff.mp h
  cases hdefinitions : Versioned.definitionsOfProfile? capabilities with
  | error e =>
    rw [hdefinitions] at himages
    cases himages
  | ok definitions =>
    rw [hdefinitions] at himages
    exact ⟨definitions, rfl, himages⟩

/-- **A profile with capabilities that is accepted has its images by flavor.** -/
theorem flavorsMatch_of_check {c : CloudProfileConfig} {profileImages : List MachineImage}
    {capabilities : List CapabilityDefinition} {specPath : FieldPath} (hsome : capabilities ≠ [])
    (h : c.check profileImages capabilities specPath = []) :
    FlavorsMatch profileImages c.machineImages capabilities ∧
      (decode (.arr []) : Except DecodeError Versioned.CapabilityValues) = .ok ⟨[]⟩ := by
  obtain ⟨definitions, hconverted, himages⟩ := checkImages_of_check h
  obtain ⟨⟨hvalues, hnames⟩, rfl⟩ := Versioned.definitionsOfProfile?_eq_ok_iff.mp hconverted
  have hnonempty : capabilities.map CapabilityDefinition.versioned ≠ [] :=
    fun hnil => hsome (List.map_eq_nil_iff.mp hnil)
  have hdefined : ∀ d ∈ capabilities.map CapabilityDefinition.versioned, d.values.values ≠ [] := by
    intro d hd
    obtain ⟨own, hown, rfl⟩ := List.mem_map.mp hd
    exact hvalues own hown
  obtain ⟨hown, hmatrix⟩ := List.append_eq_nil_iff.mp himages
  obtain ⟨-, hchecked⟩ := List.append_eq_nil_iff.mp hown
  -- there are definitions, so every version was checked by flavor
  have hbyFlavor : ∀ d ∈ declarations c.machineImages, ∃ path,
      d.2.checkByFlavor (capabilities.map CapabilityDefinition.versioned) path = [] := by
    intro d hd
    obtain ⟨path, hpath⟩ := check_of_declared hchecked hd
    exact ⟨path, ProviderImageVersion.checkByFlavor_of_check hnonempty hpath⟩
  refine ⟨⟨hconverted, ?stated, ?declared, ?flavors, ?regions, ?values⟩, rfl⟩
  case stated =>
    intro d hd
    exact (ImageMatrix.flavors_covered hnonempty rfl hmatrix hd).1
  case declared => exact ImageMatrix.declares_iff hnonempty rfl hmatrix
  case flavors => exact ImageMatrix.offersFlavor_iff_maps hnonempty rfl hmatrix
  case regions =>
    intro d hd flavor hflavor other hother region
    obtain ⟨path, hpath⟩ := hbyFlavor d hd
    exact ProviderImageVersion.maps_iff_of_checkByFlavor hpath hflavor hother region
  case values =>
    intro d hd flavor hflavor e he
    obtain ⟨path, hpath⟩ := hbyFlavor d hd
    obtain ⟨definition, hdefinition, hname, hall⟩ :=
      ProviderImageVersion.defined_of_checkByFlavor hpath hflavor he
    have hfind : flavor.capabilities.find? definition.name = some e.2 :=
      Dict.find?_eq_some_iff.mpr (hname ▸ he)
    refine ⟨ImageMatrix.values_ne_nil hnonempty hmatrix hdefined hd hflavor hdefinition hfind, ?_⟩
    obtain ⟨own, hown, rfl⟩ := List.mem_map.mp hdefinition
    exact ⟨own, hown, hname, hall⟩

/-! A version that is declared twice, once without flavors, and is mapped twice, once without capabilities. -/

def twoArchitectures : List CapabilityDefinition :=
  [{ name := "architecture", values := ["amd64", "arm64"] }]

def imagesDeclaredTwice : List MachineImage :=
  [{ name := "ubuntu"
     versions := [
      { version := "22.04", classification := none, architectures := [], capabilityFlavors := [] },
      { version := "22.04", classification := none, architectures := [],
        capabilityFlavors := [
          { capabilities := Dict.ofList [("architecture", ["amd64", "arm64"])] }] }] }]

def configMappedTwice : CloudProfileConfig where
  constraints :=
    { floatingPools := [
        { name := "public", region := none, domain := none, defaultFloatingSubnet := none,
          nonConstraining := none, loadBalancerClasses := [] }]
      loadBalancerProviders := [{ name := "haproxy", region := none }] }
  keystoneURL := "urn:keystone"
  machineImages := [
    { name := "ubuntu"
      versions := [
        { version := "22.04", image := "", regions := []
          capabilityFlavors := [
            { capabilities := Dict.empty, image := ""
              regions := [
                { name := "eu", id := "1", architecture := none },
                { name := "us", id := "2", architecture := none }] },
            { capabilities := Dict.ofList [("architecture", ⟨["amd64", "arm64"]⟩)], image := ""
              regions := [
                { name := "us", id := "2", architecture := none },
                { name := "eu", id := "1", architecture := none }] }] }] }]

/-- The configuration is accepted: what the first flavor leaves open is filled in from the definition, and
then both of its flavors are the one that the profile declares. -/
theorem flavorsMatch_configMappedTwice :
    twoArchitectures ≠ [] ∧
      configMappedTwice.check imagesDeclaredTwice twoArchitectures (.root "spec") = [] ∧
      FlavorsMatch imagesDeclaredTwice configMappedTwice.machineImages twoArchitectures := by
  have hsome : twoArchitectures ≠ [] := List.cons_ne_nil _ _
  have hcheck : configMappedTwice.check imagesDeclaredTwice twoArchitectures (.root "spec") = [] := by
    rfl
  exact ⟨hsome, hcheck, (flavorsMatch_of_check hsome hcheck).1⟩

end CloudProfileConfig

end OpenstackAdmission
