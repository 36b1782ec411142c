import OpenstackAdmission.Proofs.Versioned.Return

/-!
# What is refused, and for what

A conversion ends at the first thing that does not convert. Which thing that is depends on all that does not
convert and on where it stands: `FaultAt` says this for every level of a profile, and `RefusedAtFirst` says that a
conversion is refused only where there is a fault, and then with the error of the first one. Places are compared from
the outside to the inside, by images, versions, flavors and names; so the law passes from items to lists
(`refusedAtFirst_convertAll`) and need not be proved again at any level.

> `CloudProfileSpec.convertsExactly`: what converts, what becomes of it, and which error names what does not.

The definitions of a profile come after its images. They are looked at one after the other beside the earlier ones,
and of the two faults that a definition can have, its repetition is seen first.
-/

namespace OpenstackAdmission

/-! ## Faults and their places -/

/-- A capability is stated without values. -/
def Capabilities.FaultAt (capabilities : Capabilities) (name : String) (e : ConversionError) : Prop :=
  capabilities.find? name = some [] ∧ e = .emptyValues name

/-- A fault of the item with the first index, at the place inside that item. -/
def ItemFaultAt {α P : Type} (faultAt : α → P → ConversionError → Prop) (items : List α) (place : Nat × P)
    (e : ConversionError) : Prop :=
  ∃ a, items[place.1]? = some a ∧ faultAt a place.2 e

def MachineImageVersion.FaultAt (v : MachineImageVersion) : Nat × String → ConversionError → Prop :=
  ItemFaultAt (fun flavor => Capabilities.FaultAt flavor.capabilities) v.capabilityFlavors

def MachineImage.FaultAt (image : MachineImage) : Nat × Nat × String → ConversionError → Prop :=
  ItemFaultAt MachineImageVersion.FaultAt image.versions

/-- What can be wrong with a definition. -/
inductive DefinitionFault where
  | repeated
  | valueless

/-- Repetitions are seen before missing values. -/
inductive DefinitionFault.Before : DefinitionFault → DefinitionFault → Prop where
  | repeated : Before .repeated .valueless

/-- The definition with the index has this fault: it has the name of an earlier one, or it has no values. -/
def DefinitionFaultAt (definitions : List CapabilityDefinition) :
    Nat × DefinitionFault → ConversionError → Prop
  | (i, .repeated), e => ∃ d, definitions[i]? = some d ∧
      d.name ∈ (definitions.take i).map CapabilityDefinition.name ∧ e = .duplicateDefinition d.name
  | (i, .valueless), e => ∃ d, definitions[i]? = some d ∧ d.values = [] ∧ e = .emptyValues d.name

/-- A place in the images, by image, version, flavor and name, or one in the definitions. -/
abbrev FaultPlace := (Nat × Nat × Nat × String) ⊕ (Nat × DefinitionFault)

def CloudProfileSpec.FaultAt (spec : CloudProfileSpec) : FaultPlace → ConversionError → Prop
  | .inl place => ItemFaultAt MachineImage.FaultAt spec.machineImages place
  | .inr place => DefinitionFaultAt spec.machineCapabilities place

/-- Images come before definitions. Names ascend. -/
def FaultPlace.Before : FaultPlace → FaultPlace → Prop :=
  Sum.Lex (Prod.Lex (· < ·) (Prod.Lex (· < ·) (Prod.Lex (· < ·) (· < ·))))
    (Prod.Lex (· < ·) DefinitionFault.Before)

/-- What comes out of a conversion fits the faults of what goes in: there are none, or the error is that of the first
one. -/
structure RefusedAtFirst {β P : Type} (outcome : Except ConversionError β)
    (faultAt : P → ConversionError → Prop) (before : P → P → Prop) : Prop where
  ok : ∀ b, outcome = .ok b → ∀ place e, ¬ faultAt place e
  error : ∀ e, outcome = .error e →
    ∃ first, faultAt first e ∧ ∀ place other, faultAt place other → place = first ∨ before first place

section RefusedAtFirst

variable {α β γ P : Type} {outcome : Except ConversionError β} {faultAt : P → ConversionError → Prop}
  {before : P → P → Prop}

theorem refusedAtFirst_ok {b : β} (h : ∀ place e, ¬ faultAt place e) :
    RefusedAtFirst (.ok b) faultAt before := by
  refine ⟨fun _ _ => h, ?_⟩
  intro e he
  cases he

/-- One fault is the first if every other place with a fault is behind it. -/
theorem refusedAtFirst_error {e : ConversionError} (first : P) (hfault : faultAt first e)
    (hfirst : ∀ place other, faultAt place other → place = first ∨ before first place) :
    RefusedAtFirst (.error e : Except ConversionError β) faultAt before := by
  constructor
  case ok =>
    intro b hb
    cases hb
  case error =>
    intro other he
    obtain rfl := Except.error.inj he
    exact ⟨first, hfault, hfirst⟩

theorem RefusedAtFirst.map (h : RefusedAtFirst outcome faultAt before) (f : β → γ) :
    RefusedAtFirst (outcome.map f) faultAt before := by
  cases outcome with
  | error e =>
    obtain ⟨first, hfault, hfirst⟩ := h.error e rfl
    exact refusedAtFirst_error first hfault hfirst
  | ok b => exact refusedAtFirst_ok (h.ok b rfl)

theorem itemFaultAt_zero {faultAt : α → P → ConversionError → Prop} {a : α} {rest : List α} {place : P}
    {e : ConversionError} : ItemFaultAt faultAt (a :: rest) (0, place) e ↔ faultAt a place e := by
  unfold ItemFaultAt
  simp only [List.getElem?_cons_zero, Option.some.injEq, exists_eq_left']

theorem itemFaultAt_succ {faultAt : α → P → ConversionError → Prop} {a : α} {rest : List α} {k : Nat}
    {place : P} {e : ConversionError} :
    ItemFaultAt faultAt (a :: rest) (k + 1, place) e ↔ ItemFaultAt faultAt rest (k, place) e :=
  Iff.rfl

/-- An item without faults moves the places of the others by one. -/
theorem RefusedAtFirst.cons {faultAt : α → P → ConversionError → Prop} {a : α} {rest : List α}
    (hnone : ∀ place e, ¬ faultAt a place e)
    (h : RefusedAtFirst outcome (ItemFaultAt faultAt rest) (Prod.Lex (· < ·) before)) :
    RefusedAtFirst outcome (ItemFaultAt faultAt (a :: rest)) (Prod.Lex (· < ·) before) := by
  cases outcome with
  | ok b =>
    apply refusedAtFirst_ok
    intro place e hfault
    obtain ⟨k, place⟩ := place
    cases k with
    | zero => exact hnone place e (itemFaultAt_zero.mp hfault)
    | succ k => exact h.ok b rfl (k, place) e hfault
  | error e =>
    obtain ⟨⟨i, first⟩, hfault, hfirst⟩ := h.error e rfl
    refine refusedAtFirst_error (i + 1, first) (itemFaultAt_succ.mpr hfault) ?_
    intro place other hother
    obtain ⟨k, place⟩ := place
    cases k with
    | zero => exact absurd (itemFaultAt_zero.mp hother) (hnone place other)
    | succ k =>
      rcases hfirst (k, place) other hother with heq | hbefore
      · obtain ⟨rfl, rfl⟩ := Prod.mk.inj heq
        exact .inl rfl
      · cases hbefore with
        | left _ _ hlt => exact .inr (.left _ _ (Nat.succ_lt_succ hlt))
        | right _ hplace => exact .inr (.right _ hplace)

/-- The first fault of a list is the first fault of the first item that has one. -/
theorem refusedAtFirst_convertAll {convert : α → Except ConversionError β}
    {faultAt : α → P → ConversionError → Prop} {items : List α}
    (h : ∀ a ∈ items, RefusedAtFirst (convert a) (faultAt a) before) :
    RefusedAtFirst (Versioned.convertAll convert items) (ItemFaultAt faultAt items)
      (Prod.Lex (· < ·) before) := by
  induction items with
  | nil =>
    apply refusedAtFirst_ok
    intro place e hfault
    obtain ⟨a, ha, -⟩ := hfault
    cases ha
  | cons a rest ih =>
    obtain ⟨ha, hrest⟩ := List.forall_mem_cons.mp h
    unfold Versioned.convertAll
    cases hconvert : convert a with
    -- the induction hypothesis is about the rest alone, where indices are smaller by one
    | ok b => exact ((ih hrest).map (b :: ·)).cons (ha.ok b hconvert)
    | error e =>
      obtain ⟨first, hfault, hfirst⟩ := ha.error e hconvert
      refine refusedAtFirst_error (0, first) (itemFaultAt_zero.mpr hfault) ?_
      intro place other hother
      obtain ⟨k, place⟩ := place
      cases k with
      | zero =>
        rcases hfirst place other (itemFaultAt_zero.mp hother) with rfl | hbefore
        · exact .inl rfl
        · exact .inr (.right 0 hbefore)
      | succ k => exact .inr (.left _ _ k.succ_pos)

end RefusedAtFirst

/-! ## Images -/

/-- Of a sorted list of capabilities the least name without values is named. -/
theorem refusedAtFirst_entries {entries : List (String × List String)} (hsorted : Entries.Sorted entries) :
    RefusedAtFirst
      (Versioned.convertAll
        (fun e => (Versioned.CapabilityValues.ofList? e.1 e.2).map fun values => (e.1, values)) entries)
      (fun name e => (name, []) ∈ entries ∧ e = .emptyValues name) (· < ·) := by
  induction entries with
  | nil => exact refusedAtFirst_ok fun _ _ hfault => absurd hfault.1 List.not_mem_nil
  | cons entry rest ih =>
    obtain ⟨name, values⟩ := entry
    obtain ⟨habove, hrest⟩ := List.pairwise_cons.mp hsorted
    unfold Versioned.convertAll Versioned.CapabilityValues.ofList?
    dsimp only
    by_cases hvalues : values = []
    · subst hvalues
      rw [if_pos rfl]
      refine refusedAtFirst_error name ⟨List.mem_cons_self, rfl⟩ ?_
      rintro other - ⟨hother, -⟩
      rcases List.mem_cons.mp hother with heq | hmem
      · exact .inl (Prod.mk.inj heq).1
      · exact .inr (habove _ hmem)
    · rw [if_neg hvalues]
      -- this capability has values, so the faults are those of the rest
      have hmem : ∀ other, (other, []) ∈ (name, values) :: rest ↔ (other, []) ∈ rest := by
        intro other
        rw [List.mem_cons, or_iff_right]
        intro heq
        exact hvalues (Prod.mk.inj heq).2.symm
      simp only [hmem]
      exact (ih hrest).map _

/-- Capabilities are converted in the order of their names, and an empty list stops the conversion. -/
theorem refusedAtFirst_capabilities (capabilities : Capabilities) :
    RefusedAtFirst (Versioned.Capabilities.ofProfile? capabilities) (Capabilities.FaultAt capabilities)
      (· < ·) := by
  have h := (refusedAtFirst_entries capabilities.sorted).map Dict.ofList
  unfold Capabilities.FaultAt
  simp only [Dict.find?_eq_some_iff]
  exact h

/-- A version is converted flavor by flavor, and each flavor in the order of its names. -/
theorem refusedAtFirst_version (v : MachineImageVersion) :
    RefusedAtFirst (Versioned.MachineImageVersion.ofProfile? v) v.FaultAt (Prod.Lex (· < ·) (· < ·)) := by
  refine RefusedAtFirst.map (refusedAtFirst_convertAll fun flavor _ => ?_) _
  exact (refusedAtFirst_capabilities flavor.capabilities).map _

/-- An image is converted version by version. So places are ordered by the version, then by the flavor and
then by the name. -/
theorem refusedAtFirst_image (image : MachineImage) :
    RefusedAtFirst (Versioned.MachineImage.ofProfile? image) image.FaultAt
      (Prod.Lex (· < ·) (Prod.Lex (· < ·) (· < ·))) :=
  RefusedAtFirst.map (refusedAtFirst_convertAll fun v _ => refusedAtFirst_version v) _

/-! ## Definitions -/

section DefinitionAfter

variable {done rest : List CapabilityDefinition} {d : CapabilityDefinition} {e : ConversionError}

theorem repeated_at_length_iff :
    DefinitionFaultAt (done ++ d :: rest) (done.length, .repeated) e ↔
      d.name ∈ done.map CapabilityDefinition.name ∧ e = .duplicateDefinition d.name := by
  unfold DefinitionFaultAt
  simp only [List.getElem?_append_right (le_refl _), Nat.sub_self, List.getElem?_cons_zero,
    Option.some.injEq, List.take_left, exists_eq_left']

theorem valueless_at_length_iff :
    DefinitionFaultAt (done ++ d :: rest) (done.length, .valueless) e ↔
      d.values = [] ∧ e = .emptyValues d.name := by
  unfold DefinitionFaultAt
  simp only [List.getElem?_append_right (le_refl _), Nat.sub_self, List.getElem?_cons_zero,
    Option.some.injEq, exists_eq_left']

end DefinitionAfter

theorem DefinitionFaultAt.lt_length {definitions : List CapabilityDefinition} {i : Nat}
    {fault : DefinitionFault} {e : ConversionError} (h : DefinitionFaultAt definitions (i, fault) e) :
    i < definitions.length := by
  cases fault with
  | repeated =>
    obtain ⟨d, hd, -⟩ := h
    exact (List.getElem?_eq_some_iff.mp hd).1
  | valueless =>
    obtain ⟨d, hd, -⟩ := h
    exact (List.getElem?_eq_some_iff.mp hd).1

/-- If no definition before an index has a fault, the first one at this index is the first of all. -/
theorem DefinitionFaultAt.eq_or_before {definitions : List CapabilityDefinition} {n : Nat}
    {fault : DefinitionFault} (hdone : ∀ i < n, ∀ other e, ¬ DefinitionFaultAt definitions (i, other) e)
    (hhere : ∀ other e, DefinitionFaultAt definitions (n, other) e → other = fault ∨ fault.Before other)
    (place : Nat × DefinitionFault) (e : ConversionError) (h : DefinitionFaultAt definitions place e) :
    place = (n, fault) ∨ Prod.Lex (· < ·) DefinitionFault.Before (n, fault) place := by
  obtain ⟨i, other⟩ := place
  rcases Nat.lt_trichotomy i n with hlt | rfl | hgt
  · exact absurd h (hdone i hlt other e)
  · rcases hhere other e h with rfl | hbefore
    · exact .inl rfl
    · exact .inr (.right _ hbefore)
  · exact .inr (.left _ _ hgt)

/-- Definitions after others that have no fault. Only the names of those are known. -/
theorem refusedAtFirst_definitionsAfter {earlier : List String} {done rest : List CapabilityDefinition}
    (hnames : ∀ name, name ∈ earlier ↔ name ∈ done.map CapabilityDefinition.name)
    (hdone : ∀ i < done.length, ∀ fault e, ¬ DefinitionFaultAt (done ++ rest) (i, fault) e) :
    RefusedAtFirst (Versioned.definitionsAfter? earlier rest) (DefinitionFaultAt (done ++ rest))
      (Prod.Lex (· < ·) DefinitionFault.Before) := by
  induction rest generalizing earlier done with
  | nil =>
    apply refusedAtFirst_ok
    intro place e hfault
    obtain ⟨i, fault⟩ := place
    rw [List.append_nil] at hfault hdone
    exact hdone i hfault.lt_length fault e hfault
  | cons d rest ih =>
    unfold Versioned.definitionsAfter?
    by_cases hearlier : d.name ∈ earlier
    · rw [if_pos hearlier]
      refine refusedAtFirst_error (done.length, .repeated)
        (repeated_at_length_iff.mpr ⟨(hnames d.name).mp hearlier, rfl⟩)
        (DefinitionFaultAt.eq_or_before hdone fun other e hother => ?_)
      cases other with
      | repeated => exact .inl rfl
      | valueless => exact .inr .repeated
    rw [if_neg hearlier]
    by_cases hvalues : d.values = []
    · have hd : Versioned.CapabilityDefinition.ofProfile? d = .error (.emptyValues d.name) := by
        unfold Versioned.CapabilityDefinition.ofProfile? Versioned.CapabilityValues.ofList?
        rw [if_pos hvalues]
        rfl
      rw [hd]
      refine refusedAtFirst_error (done.length, .valueless)
        (valueless_at_length_iff.mpr ⟨hvalues, rfl⟩)
        (DefinitionFaultAt.eq_or_before hdone fun other e hother => ?_)
      cases other with
      | repeated => exact absurd ((hnames d.name).mpr (repeated_at_length_iff.mp hother).1) hearlier
      | valueless => exact .inl rfl
    · rw [Versioned.converts_definition.eq_ok hvalues]
      show RefusedAtFirst ((Versioned.definitionsAfter? (d.name :: earlier) rest).map _) _ _
      have hnamesNext : ∀ name, name ∈ d.name :: earlier ↔
          name ∈ (done ++ [d]).map CapabilityDefinition.name := by
        intro name
        rw [List.mem_cons, hnames, List.map_append, List.mem_append, or_comm]
        exact or_congr_right List.mem_singleton.symm
      -- neither fault is one of this definition, so it joins those that are done
      have hdoneNext : ∀ i < (done ++ [d]).length, ∀ fault e,
          ¬ DefinitionFaultAt (done ++ d :: rest) (i, fault) e := by
        intro i hi fault e hfault
        rw [List.length_append, List.length_singleton] at hi
        rcases Nat.lt_succ_iff_lt_or_eq.mp hi with hlt | rfl
        · exact hdone i hlt fault e hfault
        · cases fault with
          | repeated => exact hearlier ((hnames d.name).mpr (repeated_at_length_iff.mp hfault).1)
          | valueless => exact hvalues (valueless_at_length_iff.mp hfault).1
      rw [List.append_cons done d rest] at hdoneNext ⊢
      exact (ih hnamesNext hdoneNext).map _

/-- The first fault of a definition is named, before any later definition is looked at. -/
theorem refusedAtFirst_definitions (definitions : List CapabilityDefinition) :
    RefusedAtFirst (Versioned.definitionsOfProfile? definitions) (DefinitionFaultAt definitions)
      (Prod.Lex (· < ·) DefinitionFault.Before) := by
  have hnames : ∀ name, name ∈ ([] : List String) ↔
      name ∈ ([] : List CapabilityDefinition).map CapabilityDefinition.name := fun _ => Iff.rfl
  exact refusedAtFirst_definitionsAfter hnames fun i hi => absurd hi i.not_lt_zero

/-! ## Profiles -/

/-- There are values for every capability of a flavor and for every definition, and no name is defined twice. -/
structure Versioned.CloudProfileSpec.Stated (spec : Versioned.CloudProfileSpec) : Prop where
  flavors : ∀ image ∈ spec.machineImages, ∀ v ∈ image.versions, ∀ flavor ∈ v.capabilityFlavors,
    ∀ name values, flavor.capabilities.find? name = some values → values.values ≠ []
  definitions : ∀ d ∈ spec.machineCapabilities, d.values.values ≠ []
  names : (spec.machineCapabilities.map Versioned.CapabilityDefinition.name).Nodup

/-- The conversion of a profile is exact. -/
structure CloudProfileSpec.ConvertsExactly (spec : CloudProfileSpec) : Prop where
  converts_iff : (∃ converted, Versioned.CloudProfileSpec.ofProfile? spec = .ok converted) ↔
    (∀ image ∈ spec.machineImages, ∀ v ∈ image.versions, v.NonemptyValues) ∧
      (∀ d ∈ spec.machineCapabilities, d.values ≠ []) ∧
        (spec.machineCapabilities.map CapabilityDefinition.name).Nodup
  /-- Read back, what it gives is the profile without the classifications of its versions. -/
  result : ∀ converted, Versioned.CloudProfileSpec.ofProfile? spec = .ok converted →
    CloudProfileSpec.ofVersioned converted = spec.unclassified ∧ converted.Stated
  /-- If it is refused, the error is that of the first fault. -/
  refusal : ∀ e, Versioned.CloudProfileSpec.ofProfile? spec = .error e →
    ∃ first, spec.FaultAt first e ∧
      ∀ place other, spec.FaultAt place other → place = first ∨ FaultPlace.Before first place

namespace CloudProfileSpec

/-- **What is wrong with the images is named before what is wrong with the definitions.** -/
theorem refusedAtFirst (spec : CloudProfileSpec) :
    RefusedAtFirst (Versioned.CloudProfileSpec.ofProfile? spec) spec.FaultAt FaultPlace.Before := by
  have himages : RefusedAtFirst
      (Versioned.convertAll Versioned.MachineImage.ofProfile? spec.machineImages)
      (ItemFaultAt MachineImage.FaultAt spec.machineImages) _ :=
    refusedAtFirst_convertAll fun image _ => refusedAtFirst_image image
  have hdefinitions := refusedAtFirst_definitions spec.machineCapabilities
  unfold Versioned.CloudProfileSpec.ofProfile?
  cases hconvert : Versioned.convertAll Versioned.MachineImage.ofProfile? spec.machineImages with
  | error e =>
    obtain ⟨first, hfault, hfirst⟩ := himages.error e hconvert
    -- places in the definitions are behind all places in the images
    refine refusedAtFirst_error (.inl first) hfault ?_
    rintro (place | place) other hother
    · rcases hfirst place other hother with rfl | hbefore
      · exact .inl rfl
      · exact .inr (.inl hbefore)
    · exact .inr (.sep first place)
  | ok machineImages =>
    -- all images convert, so the first fault is the first of the definitions
    have hnone := himages.ok machineImages hconvert
    have hmap := hdefinitions.map fun machineCapabilities =>
      (⟨spec.providerType, machineImages, machineCapabilities, spec.providerConfig⟩ :
        Versioned.CloudProfileSpec)
    constructor
    case ok =>
      rintro converted hconverted (place | place) e hfault
      · exact hnone place e hfault
      · exact hmap.ok converted hconverted place e hfault
    case error =>
      intro e he
      obtain ⟨first, hfault, hfirst⟩ := hmap.error e he
      refine ⟨.inr first, hfault, ?_⟩
      rintro (place | place) other hother
      · exact absurd hother (hnone place other)
      · rcases hfirst place other hother with rfl | hbefore
        · exact .inl rfl
        · exact .inr (.inr hbefore)

theorem stated_versioned {spec : CloudProfileSpec}
    (himages : ∀ image ∈ spec.machineImages, ∀ v ∈ image.versions, v.NonemptyValues)
    (hdefinitions : ∀ d ∈ spec.machineCapabilities, d.values ≠ [])
    (hnames : (spec.machineCapabilities.map CapabilityDefinition.name).Nodup) :
    spec.versioned.Stated where
  flavors := by
    intro image himage v hv flavor hflavor name values hfind
    obtain ⟨ownImage, hownImage, rfl⟩ := List.mem_map.mp himage
    obtain ⟨ownVersion, hownVersion, rfl⟩ := List.mem_map.mp hv
    obtain ⟨ownFlavor, hownFlavor, rfl⟩ := List.mem_map.mp hflavor
    obtain ⟨entry, hentry, heq⟩ := List.mem_map.mp (Dict.find?_eq_some_iff.mp hfind)
    obtain ⟨-, rfl⟩ := Prod.mk.inj heq
    exact himages ownImage hownImage ownVersion hownVersion ownFlavor hownFlavor entry hentry
  definitions := List.forall_mem_map.mpr hdefinitions
  names := by
    show ((spec.machineCapabilities.map _).map _).Nodup
    rw [List.map_map]
    exact hnames

/-- **Conversion is exact,** whatever the profile states. -/
theorem convertsExactly (spec : CloudProfileSpec) : spec.ConvertsExactly := by
  have hiff : ∀ converted, Versioned.CloudProfileSpec.ofProfile? spec = .ok converted ↔
      ((∀ image ∈ spec.machineImages, ∀ v ∈ image.versions, v.NonemptyValues) ∧
          (∀ d ∈ spec.machineCapabilities, d.values ≠ []) ∧
            (spec.machineCapabilities.map CapabilityDefinition.name).Nodup) ∧
        spec.versioned = converted := by
    intro converted
    rw [Versioned.specOfProfile?_eq_ok_iff, Versioned.definitionsOfProfile?_eq_ok_iff, and_iff_left rfl]
  constructor
  case converts_iff =>
    simp only [hiff, exists_and_left, exists_eq', and_true]
  case result =>
    intro converted hconverted
    obtain ⟨⟨himages, hdefinitions, hnames⟩, rfl⟩ := (hiff converted).mp hconverted
    exact ⟨ofVersioned_versioned spec, stated_versioned himages hdefinitions hnames⟩
  case refusal => exact spec.refusedAtFirst.error

/-! A profile in which everything is wrong at once: its images are named first. -/

def specWithFaults : CloudProfileSpec where
  providerType := "openstack"
  machineImages := [
    { name := "ubuntu"
      versions := [
        { version := "22.04", classification := some "supported", architectures := []
          capabilityFlavors := [
            { capabilities := Dict.ofList [("gpu", ["none"])] },
            { capabilities := Dict.ofList [("gpu", []), ("architecture", [])] }] }] }]
  machineCapabilities := [{ name := "gpu", values := ["none"] }, { name := "gpu", values := [] }]
  providerConfig := none

example : Versioned.CloudProfileSpec.ofProfile? specWithFaults = .error (.emptyValues "architecture") := rfl

example : Versioned.definitionsOfProfile? specWithFaults.machineCapabilities =
    .error (.duplicateDefinition "gpu") := rfl

end CloudProfileSpec

end OpenstackAdmission
