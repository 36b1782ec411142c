import OpenstackAdmission.Versioned.Conversion

/-!
# What converts

A conversion that is refused on some values and keeps the others is known by the values that it takes and by
what it makes of them: `Converts convert accepts result`. This passes from values to lists of values, so that
every level of a profile has the same law as its capabilities.

> `definitionsOfProfile?_eq_ok_iff`: definitions convert exactly if their names are distinct and every one
> has values; they keep names and values.
>
> `specOfProfile?_eq_ok_iff`: a profile converts exactly if its definitions do and no flavor of any of its versions
> states a capability without values.
-/

namespace OpenstackAdmission

/-- No capability is stated without values. -/
def Capabilities.NonemptyValues (capabilities : Capabilities) : Prop :=
  ∀ e ∈ capabilities.entries, e.2 ≠ []

/-- The capabilities in the form in which they are compared. -/
def Capabilities.versioned (capabilities : Capabilities) : Versioned.Capabilities :=
  capabilities.map Versioned.CapabilityValues.mk

def CapabilityDefinition.versioned (d : CapabilityDefinition) : Versioned.CapabilityDefinition :=
  { name := d.name, values := ⟨d.values⟩ }

def CapabilityFlavor.versioned (flavor : CapabilityFlavor) : Versioned.MachineImageFlavor :=
  { capabilities := Capabilities.versioned flavor.capabilities }

def MachineImageVersion.versioned (v : MachineImageVersion) : Versioned.MachineImageVersion where
  version := v.version
  architectures := v.architectures
  capabilityFlavors := v.capabilityFlavors.map CapabilityFlavor.versioned

/-- No flavor of the version states a capability without values. -/
def MachineImageVersion.NonemptyValues (v : MachineImageVersion) : Prop :=
  ∀ flavor ∈ v.capabilityFlavors, Capabilities.NonemptyValues flavor.capabilities

def MachineImage.versioned (image : MachineImage) : Versioned.MachineImage where
  name := image.name
  versions := image.versions.map MachineImageVersion.versioned

/-- The profile in the form in which it is a parent. -/
def CloudProfileSpec.versioned (spec : CloudProfileSpec) : Versioned.CloudProfileSpec where
  providerType := spec.providerType
  machineImages := spec.machineImages.map MachineImage.versioned
  machineCapabilities := spec.machineCapabilities.map CapabilityDefinition.versioned
  providerConfig := spec.providerConfig

namespace Versioned

/-- The conversion takes exactly the values that it accepts, each to its result. -/
def Converts {α β : Type} (convert : α → Except ConversionError β) (accepts : α → Prop)
    (result : α → β) : Prop :=
  ∀ a b, convert a = .ok b ↔ accepts a ∧ result a = b

section Converts

variable {α β γ : Type} {convert : α → Except ConversionError β} {accepts : α → Prop}
  {result : α → β}

/-- What is accepted converts, to the result. -/
theorem Converts.eq_ok (h : Converts convert accepts result) {a : α} (ha : accepts a) :
    convert a = .ok (result a) :=
  (h a _).mpr ⟨ha, rfl⟩

/-- What is not accepted is refused with some error. -/
theorem Converts.eq_error (h : Converts convert accepts result) {a : α} (ha : ¬ accepts a) :
    ∃ e, convert a = .error e := by
  cases hconvert : convert a with
  | error e => exact ⟨e, rfl⟩
  | ok b => exact absurd ((h a b).mp hconvert).1 ha

/-- A function after the conversion. -/
theorem Converts.map (h : Converts convert accepts result) (f : β → γ) :
    Converts (fun a => (convert a).map f) accepts (fun a => f (result a)) := by
  intro a c
  rw [map_eq_ok_iff]
  constructor
  · rintro ⟨b, hb, rfl⟩
    obtain ⟨ha, rfl⟩ := (h a b).mp hb
    exact ⟨ha, rfl⟩
  · rintro ⟨ha, rfl⟩
    exact ⟨result a, h.eq_ok ha, rfl⟩

/-- A list converts exactly if all its items do. -/
theorem Converts.convertAll (h : Converts convert accepts result) :
    Converts (convertAll convert) (fun items => ∀ item ∈ items, accepts item)
      (fun items => items.map result) := by
  intro items
  induction items with
  | nil =>
    intro out
    simp [Versioned.convertAll]
  | cons a rest ih =>
    intro out
    unfold Versioned.convertAll
    simp only [List.forall_mem_cons, List.map_cons]
    by_cases ha : accepts a
    · simp only [h.eq_ok ha, map_eq_ok_iff, and_iff_right ha]
      constructor
      · rintro ⟨converted, hconvert, rfl⟩
        obtain ⟨hrest, rfl⟩ := (ih converted).mp hconvert
        exact ⟨hrest, rfl⟩
      · rintro ⟨hrest, rfl⟩
        exact ⟨rest.map result, (ih _).mpr ⟨hrest, rfl⟩, rfl⟩
    · obtain ⟨e, he⟩ := h.eq_error ha
      simp only [he, reduceCtorEq, ha, false_and]

end Converts

/-! ## The levels of a profile -/

/-- A list of values converts unless it is empty. -/
theorem converts_values (name : String) :
    Converts (CapabilityValues.ofList? name) (fun values => values ≠ []) CapabilityValues.mk := by
  intro values converted
  unfold CapabilityValues.ofList?
  split
  · next h => simp only [reduceCtorEq, h, ne_eq, not_true_eq_false, false_and]
  · next h => simp only [Except.ok.injEq, ne_eq, h, not_false_eq_true, true_and]

theorem converts_entry :
    Converts (fun e : String × List String =>
        (CapabilityValues.ofList? e.1 e.2).map fun values => (e.1, values))
      (fun e => e.2 ≠ []) (fun e => (e.1, ⟨e.2⟩)) := by
  intro e converted
  exact ((converts_values e.1).map fun values => (e.1, values)) e.2 converted

/-- Capabilities convert if each of their lists does, and keep their names. -/
theorem converts_capabilities :
    Converts Capabilities.ofProfile? OpenstackAdmission.Capabilities.NonemptyValues
      OpenstackAdmission.Capabilities.versioned := by
  intro capabilities converted
  have h := (converts_entry.convertAll.map Dict.ofList) capabilities.entries converted
  have hversioned : Dict.ofList (capabilities.entries.map fun e => (e.1, CapabilityValues.mk e.2)) =
      OpenstackAdmission.Capabilities.versioned capabilities :=
    Dict.ofList_entries (OpenstackAdmission.Capabilities.versioned capabilities)
  rw [← hversioned]
  exact h

theorem converts_flavor :
    Converts MachineImageFlavor.ofProfile?
      (fun flavor => OpenstackAdmission.Capabilities.NonemptyValues flavor.capabilities)
      CapabilityFlavor.versioned := by
  intro flavor converted
  exact (converts_capabilities.map MachineImageFlavor.mk) flavor.capabilities converted

/-- A version converts flavor by flavor. Its classification is left out, and everything else is kept. -/
theorem converts_version :
    Converts MachineImageVersion.ofProfile? OpenstackAdmission.MachineImageVersion.NonemptyValues
      OpenstackAdmission.MachineImageVersion.versioned := by
  intro v converted
  exact (converts_flavor.convertAll.map fun capabilityFlavors =>
    { version := v.version, architectures := v.architectures, capabilityFlavors })
    v.capabilityFlavors converted

theorem converts_image :
    Converts MachineImage.ofProfile? (fun image => ∀ v ∈ image.versions, v.NonemptyValues)
      OpenstackAdmission.MachineImage.versioned := by
  intro image converted
  exact (converts_version.convertAll.map fun versions => { name := image.name, versions })
    image.versions converted

theorem converts_definition :
    Converts CapabilityDefinition.ofProfile? (fun d => d.values ≠ [])
      OpenstackAdmission.CapabilityDefinition.versioned := by
  intro d converted
  exact ((converts_values d.name).map fun values => { name := d.name, values }) d.values converted

/-! ## Definitions -/

/-- Definitions after others convert if they repeat neither a name of those nor one of their own. -/
theorem definitionsAfter?_eq_ok_iff {earlier : List String}
    {definitions : List OpenstackAdmission.CapabilityDefinition}
    {converted : List CapabilityDefinition} :
    definitionsAfter? earlier definitions = .ok converted ↔
      ((∀ d ∈ definitions, d.values ≠ []) ∧ (∀ d ∈ definitions, d.name ∉ earlier) ∧
          (definitions.map OpenstackAdmission.CapabilityDefinition.name).Nodup) ∧
        definitions.map OpenstackAdmission.CapabilityDefinition.versioned = converted := by
  induction definitions generalizing earlier converted with
  | nil => simp [definitionsAfter?]
  | cons d rest ih =>
    unfold definitionsAfter?
    by_cases hearlier : d.name ∈ earlier
    · simp [hearlier]
    by_cases hvalues : d.values = []
    · obtain ⟨e, he⟩ := converts_definition.eq_error (not_not_intro hvalues)
      simp [hearlier, he, hvalues]
    · -- that no later name is this one is part of the check of the later ones
      have hnames : (∀ other ∈ rest, other.name ∉ d.name :: earlier) ↔
          (∀ other ∈ rest, other.name ∉ earlier) ∧
            d.name ∉ rest.map OpenstackAdmission.CapabilityDefinition.name := by
        simp only [List.mem_cons, not_or, List.mem_map, not_exists, not_and]
        exact ⟨fun h => ⟨fun o ho => (h o ho).2, fun o ho => (h o ho).1⟩,
          fun h o ho => ⟨h.2 o ho, h.1 o ho⟩⟩
      rw [if_neg hearlier, converts_definition.eq_ok hvalues]
      simp only [map_eq_ok_iff, ih, hnames, List.forall_mem_cons, List.map_cons, List.nodup_cons,
        ne_eq, hvalues, hearlier, not_false_eq_true, true_and, and_assoc, exists_and_left,
        exists_eq_left']

/-- **What definitions convert.** -/
theorem definitionsOfProfile?_eq_ok_iff
    {definitions : List OpenstackAdmission.CapabilityDefinition}
    {converted : List CapabilityDefinition} :
    definitionsOfProfile? definitions = .ok converted ↔
      ((∀ d ∈ definitions, d.values ≠ []) ∧
          (definitions.map OpenstackAdmission.CapabilityDefinition.name).Nodup) ∧
        definitions.map OpenstackAdmission.CapabilityDefinition.versioned = converted := by
  unfold definitionsOfProfile?
  rw [definitionsAfter?_eq_ok_iff]
  simp only [List.not_mem_nil, not_false_eq_true, implies_true, true_and]

/-! ## Profiles -/

/-- **What profiles convert.** -/
theorem specOfProfile?_eq_ok_iff {spec : OpenstackAdmission.CloudProfileSpec}
    {converted : CloudProfileSpec} :
    CloudProfileSpec.ofProfile? spec = .ok converted ↔
      (((∀ image ∈ spec.machineImages, ∀ v ∈ image.versions, v.NonemptyValues) ∧
          definitionsOfProfile? spec.machineCapabilities =
            .ok (spec.machineCapabilities.map OpenstackAdmission.CapabilityDefinition.versioned)) ∧
        spec.versioned = converted) := by
  unfold CloudProfileSpec.ofProfile?
  -- images are converted first, and definitions only if all images convert
  by_cases himages : ∀ image ∈ spec.machineImages, ∀ v ∈ image.versions, v.NonemptyValues
  · rw [converts_image.convertAll.eq_ok himages]
    show (definitionsOfProfile? spec.machineCapabilities).map _ = .ok converted ↔ _
    rw [map_eq_ok_iff, and_iff_right himages]
    constructor
    · rintro ⟨definitions, hdefinitions, rfl⟩
      have hversioned := (definitionsOfProfile?_eq_ok_iff.mp hdefinitions).2
      rw [hversioned]
      refine ⟨hdefinitions, ?_⟩
      unfold OpenstackAdmission.CloudProfileSpec.versioned
      rw [hversioned]
    · rintro ⟨hdefinitions, rfl⟩
      exact ⟨_, hdefinitions, rfl⟩
  · obtain ⟨e, he⟩ := converts_image.convertAll.eq_error himages
    rw [he]
    constructor
    · intro h
      cases h
    · intro h
      exact absurd h.1.1 himages

end Versioned

end OpenstackAdmission
