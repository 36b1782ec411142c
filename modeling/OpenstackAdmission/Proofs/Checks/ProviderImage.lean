import OpenstackAdmission.Checks.ProviderImage
import OpenstackAdmission.Proofs.Images.Declarations

/-!
# What a checked image of the provider has

Where the check of a version by flavors finds nothing, its flavors state defined capabilities with defined
values, and all of them are mapped in the same regions. Completeness is checked for named regions only, but
every region has a name then.
-/

namespace OpenstackAdmission

/-- An image of a region states the region and its own identifier. The architecture is judged elsewhere, as
that depends on the mode. -/
theorem RegionImage.check_eq_nil_iff {region : RegionImage} {path : FieldPath} :
    region.check path = [] ↔ region.name ≠ "" ∧ region.id ≠ "" := by
  unfold RegionImage.check
  rw [List.append_eq_nil_iff, errorIf_eq_nil_iff, errorIf_eq_nil_iff]
  simp only [decide_eq_false_iff_not, ne_eq]

/-- The flavor has an image in the region. -/
def ProviderFlavor.Maps (flavor : ProviderFlavor) (region : String) : Prop :=
  ∃ mapping ∈ flavor.regions, mapping.name = region

namespace ProviderImageVersion

variable {v : ProviderImageVersion} {definitions : List Versioned.CapabilityDefinition}
  {capabilities : Versioned.Capabilities} {flavor : ProviderFlavor} {path : FieldPath}

/-- Every capability is looked up by name, and then every value in what is found. -/
theorem checkCapabilities_eq_nil_iff :
    checkCapabilities capabilities definitions path = [] ↔
      ∀ e ∈ capabilities.entries, ∃ d, definitions.find? (·.name = e.1) = some d ∧
        ∀ value ∈ e.2.values, value ∈ d.values.values := by
  unfold checkCapabilities
  rw [List.flatMap_eq_nil_iff]
  refine forall₂_congr fun e _ => ?_
  cases h : definitions.find? (·.name = e.1) with
  | none => simp [h]
  | some d =>
    simp [h, Versioned.CapabilityValues.contains]

/-- A checked flavor states what is defined, and its regions have names. -/
theorem of_checkFlavor (h : checkFlavor definitions path flavor = []) :
    (∀ e ∈ flavor.capabilities.entries, ∃ d, definitions.find? (·.name = e.1) = some d ∧
        ∀ value ∈ e.2.values, value ∈ d.values.values) ∧
      ∀ region ∈ flavor.regions, region.name ≠ "" := by
  unfold checkFlavor at h
  simp only [List.append_eq_nil_iff] at h
  obtain ⟨⟨hcapabilities, -⟩, hregions⟩ := h
  refine ⟨checkCapabilities_eq_nil_iff.mp hcapabilities, fun region hregion => ?_⟩
  obtain ⟨i, hi⟩ := check_eq_nil_of_checkEach hregions hregion
  exact (RegionImage.check_eq_nil_iff.mp (List.append_eq_nil_iff.mp hi).1).1

/-- The regions of all flavors together are those that some flavor is mapped in, but for one without a name.
-/
theorem mem_flavorRegions {flavors : List ProviderFlavor} {region : String} :
    region ∈ flavorRegions flavors ↔ region ≠ "" ∧ ∃ flavor ∈ flavors, flavor.Maps region := by
  unfold flavorRegions ProviderFlavor.Maps
  rw [mem_ascending]
  simp only [List.mem_filter, List.mem_map, List.mem_flatMap, decide_eq_true_eq]
  constructor
  · rintro ⟨⟨mapping, ⟨flavor, hflavor, hmapping⟩, hname⟩, hne⟩
    exact ⟨hne, flavor, hflavor, mapping, hmapping, hname⟩
  · rintro ⟨hne, flavor, hflavor, mapping, hmapping, hname⟩
    exact ⟨⟨mapping, ⟨flavor, hflavor, hmapping⟩, hname⟩, hne⟩

/-- Every flavor is mapped in the named regions of every other. -/
theorem maps_of_checkComplete (h : v.checkComplete path = []) (hflavor : flavor ∈ v.capabilityFlavors)
    {other : ProviderFlavor} (hother : other ∈ v.capabilityFlavors) {region : String}
    (hname : region ≠ "") (hmaps : other.Maps region) : flavor.Maps region := by
  unfold checkComplete at h
  obtain ⟨i, hi⟩ := check_eq_nil_of_checkEach h hflavor
  rw [List.map_eq_nil_iff, List.filter_eq_nil_iff] at hi
  have hmapped := hi region (mem_flavorRegions.mpr ⟨hname, other, hother, hmaps⟩)
  simpa [ProviderFlavor.Maps] using hmapped

/-- The flavors of a checked version are mapped in the same regions. -/
theorem maps_iff_of_checkByFlavor (h : v.checkByFlavor definitions path = [])
    (hflavor : flavor ∈ v.capabilityFlavors) {other : ProviderFlavor}
    (hother : other ∈ v.capabilityFlavors) (region : String) :
    flavor.Maps region ↔ other.Maps region := by
  unfold checkByFlavor at h
  obtain ⟨hparts, hcomplete⟩ := List.append_eq_nil_iff.mp h
  obtain ⟨-, hflavors⟩ := List.append_eq_nil_iff.mp hparts
  have hnamed : ∀ f ∈ v.capabilityFlavors, f.Maps region → region ≠ "" := by
    rintro f hf ⟨mapping, hmapping, rfl⟩
    obtain ⟨i, hi⟩ := check_eq_nil_of_checkEach hflavors hf
    exact (of_checkFlavor hi).2 mapping hmapping
  exact ⟨fun hmaps => maps_of_checkComplete hcomplete hother hflavor (hnamed _ hflavor hmaps) hmaps,
    fun hmaps => maps_of_checkComplete hcomplete hflavor hother (hnamed _ hother hmaps) hmaps⟩

/-- The flavors of a checked version state what is defined. -/
theorem defined_of_checkByFlavor (h : v.checkByFlavor definitions path = [])
    (hflavor : flavor ∈ v.capabilityFlavors) {e : String × Versioned.CapabilityValues}
    (he : e ∈ flavor.capabilities.entries) :
    ∃ d ∈ definitions, d.name = e.1 ∧ ∀ value ∈ e.2.values, value ∈ d.values.values := by
  unfold checkByFlavor at h
  obtain ⟨-, hflavors⟩ := List.append_eq_nil_iff.mp (List.append_eq_nil_iff.mp h).1
  obtain ⟨i, hi⟩ := check_eq_nil_of_checkEach hflavors hflavor
  obtain ⟨d, hd, hvalues⟩ := (of_checkFlavor hi).1 e he
  exact ⟨d, List.mem_of_find?_eq_some hd, by simpa using List.find?_some hd, hvalues⟩

/-- With definitions, versions are checked by flavor. -/
theorem checkByFlavor_of_check (hsome : definitions ≠ []) (h : v.check definitions path = []) :
    v.checkByFlavor definitions path = [] := by
  unfold ProviderImageVersion.check at h
  rw [if_neg hsome] at h
  exact (List.append_eq_nil_iff.mp h).2

end ProviderImageVersion

/-- Where images are checked, every version that they declare is. -/
theorem check_of_declared {images : List ProviderImage} {path : FieldPath}
    {definitions : List Versioned.CapabilityDefinition}
    (h : checkEach path images (fun path image => image.check definitions path) = [])
    {d : String × ProviderImageVersion} (hd : d ∈ declarations images) :
    ∃ path, d.2.check definitions path = [] := by
  obtain ⟨image, himage, v, hv, rfl⟩ := mem_declarations.mp hd
  obtain ⟨i, hi⟩ := check_eq_nil_of_checkEach h himage
  unfold ProviderImage.check at hi
  obtain ⟨j, hj⟩ := check_eq_nil_of_checkEach (List.append_eq_nil_iff.mp hi).2 hv
  exact ⟨_, hj⟩

end OpenstackAdmission
