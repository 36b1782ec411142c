import OpenstackAdmission.Proofs.Dict.Values
import OpenstackAdmission.Proofs.Versioned.Defaults

/-!
# Defaults as a normal form

Capabilities with defaults depend on the values of the defined names only, and those they have all of. Who applies
defaults once more finds every name stated, and changes nothing; who takes the definitions in another order finds the
same definition for each name, if no name is defined twice.

> `defaultsNormalize`: the laws of this normal form, for the capabilities of one flavor and for the flavors of a
version.

Of several definitions of a name the last one counts. That is why the laws need dictionaries to be known by their
values: the lists that they are made of may differ.
-/

namespace OpenstackAdmission.Versioned

variable {definitions others : List CapabilityDefinition}

/-- Defaults bring capabilities, and the flavors of a version, into a normal form. -/
structure DefaultsNormalize (definitions : List CapabilityDefinition) : Prop where
  /-- The names are those that are defined. -/
  names : ∀ (capabilities : Capabilities) (name : String),
    name ∈ (capabilities.withDefaults definitions).keys ↔
      name ∈ definitions.map CapabilityDefinition.name
  /-- What is stated for a defined name stays. -/
  stated : ∀ (capabilities : Capabilities), ∀ d ∈ definitions, ∀ values,
    capabilities.find? d.name = some values →
      (capabilities.withDefaults definitions).find? d.name = some values
  /-- What is not stated is taken from a definition. -/
  unstated : ∀ (capabilities : Capabilities), ∀ d ∈ definitions, capabilities.find? d.name = none →
    ∃ other ∈ definitions, other.name = d.name ∧
      (capabilities.withDefaults definitions).find? d.name = some other.values
  again : ∀ capabilities : Capabilities,
    (capabilities.withDefaults definitions).withDefaults definitions =
      capabilities.withDefaults definitions
  flavorsAgain : ∀ flavors : List MachineImageFlavor,
    flavorsWithDefaults (flavorsWithDefaults flavors definitions) definitions =
      flavorsWithDefaults flavors definitions
  /-- If names are distinct, the order of the definitions does not matter. -/
  anyOrder : (definitions.map CapabilityDefinition.name).Nodup →
    ∀ others : List CapabilityDefinition, others.Perm definitions →
      (∀ capabilities : Capabilities,
          capabilities.withDefaults others = capabilities.withDefaults definitions) ∧
        ∀ flavors : List MachineImageFlavor,
          flavorsWithDefaults flavors others = flavorsWithDefaults flavors definitions

namespace Capabilities

variable {capabilities : Capabilities} {name : String} {d : CapabilityDefinition}

/-- With defaults, capabilities have the defined names and no others. -/
theorem mem_keys_withDefaults_iff :
    name ∈ (capabilities.withDefaults definitions).keys ↔
      name ∈ definitions.map CapabilityDefinition.name := by
  rw [← Dict.contains_iff, Dict.contains, find?_withDefaults, Option.isSome_map, List.find?_isSome]
  simp only [List.mem_reverse, decide_eq_true_eq, List.mem_map]

theorem find?_withDefaults_of_undefined (h : name ∉ definitions.map CapabilityDefinition.name) :
    (capabilities.withDefaults definitions).find? name = none := by
  rw [← mem_keys_withDefaults_iff, ← Dict.contains_iff] at h
  exact Option.not_isSome_iff_eq_none.mp h

/-- A defined name that is not stated has the values of one of its definitions. -/
theorem exists_definition_of_unstated (hd : d ∈ definitions)
    (h : capabilities.find? d.name = none) :
    ∃ other ∈ definitions, other.name = d.name ∧
      (capabilities.withDefaults definitions).find? d.name = some other.values := by
  have hdefined : (definitions.reverse.find? (·.name = d.name)).isSome = true :=
    List.find?_isSome.mpr ⟨d, List.mem_reverse.mpr hd, decide_eq_true rfl⟩
  obtain ⟨other, hother⟩ := Option.isSome_iff_exists.mp hdefined
  have hname : other.name = d.name := by simpa using List.find?_some hother
  refine ⟨other, List.mem_reverse.mp (List.mem_of_find?_eq_some hother), hname, ?_⟩
  rw [find?_withDefaults, hother, Option.map_some, h, Option.getD_none]

/-- If names are distinct, the values of a name are those stated, or else those of its definition. -/
theorem find?_withDefaults_of_mem (hnames : (definitions.map CapabilityDefinition.name).Nodup)
    (hd : d ∈ definitions) :
    (capabilities.withDefaults definitions).find? d.name =
      some ((capabilities.find? d.name).getD d.values) := by
  cases hstated : capabilities.find? d.name with
  | some values => exact find?_withDefaults_of_stated hd hstated
  | none =>
    obtain ⟨other, hother, hname, hfind⟩ := exists_definition_of_unstated hd hstated
    obtain rfl : other = d := List.inj_on_of_nodup_map hnames hother hd hname
    exact hfind

/-- With defaults every defined name is stated, so there is nothing left for defaults to do. -/
theorem withDefaults_withDefaults (capabilities : Capabilities)
    (definitions : List CapabilityDefinition) :
    (capabilities.withDefaults definitions).withDefaults definitions =
      capabilities.withDefaults definitions := by
  apply Dict.eq_of_find?_eq
  intro name
  have hfind := find?_withDefaults capabilities definitions name
  rw [find?_withDefaults, hfind]
  cases definitions.reverse.find? (·.name = name) with
  | none => rfl
  | some d => rfl

/-- Each defined name has one definition, so the order of the definitions makes no difference to what is
filled in. -/
theorem withDefaults_eq_of_perm (hnames : (definitions.map CapabilityDefinition.name).Nodup)
    (h : others.Perm definitions) (capabilities : Capabilities) :
    capabilities.withDefaults others = capabilities.withDefaults definitions := by
  have hnames' : (others.map CapabilityDefinition.name).Nodup := (h.map _).nodup_iff.mpr hnames
  apply Dict.eq_of_find?_eq
  intro name
  by_cases hdefined : name ∈ definitions.map CapabilityDefinition.name
  · obtain ⟨d, hd, rfl⟩ := List.mem_map.mp hdefined
    rw [find?_withDefaults_of_mem hnames hd, find?_withDefaults_of_mem hnames' (h.mem_iff.mpr hd)]
  · have hundefined : name ∉ others.map CapabilityDefinition.name := fun hmem =>
      hdefined ((h.map _).mem_iff.mp hmem)
    rw [find?_withDefaults_of_undefined hundefined, find?_withDefaults_of_undefined hdefined]

end Capabilities

/-- There is a flavor in any case: without a stated one, that which has every value. -/
theorem flavorsWithDefaults_ne_nil (flavors : List MachineImageFlavor)
    (definitions : List CapabilityDefinition) : flavorsWithDefaults flavors definitions ≠ [] := by
  unfold flavorsWithDefaults
  rw [Ne, List.map_eq_nil_iff]
  by_cases hnone : flavors = []
  · rw [if_pos hnone]
    exact List.cons_ne_nil _ _
  · rwa [if_neg hnone]

/-- Flavors that are there are taken one by one. -/
theorem flavorsWithDefaults_of_ne_nil {flavors : List MachineImageFlavor} (h : flavors ≠ [])
    (definitions : List CapabilityDefinition) :
    flavorsWithDefaults flavors definitions =
      flavors.map fun flavor => { capabilities := flavor.capabilities.withDefaults definitions } := by
  unfold flavorsWithDefaults
  rw [if_neg h]

/-- With defaults there is a flavor, so none has to be made up. -/
theorem flavorsWithDefaults_flavorsWithDefaults (flavors : List MachineImageFlavor)
    (definitions : List CapabilityDefinition) :
    flavorsWithDefaults (flavorsWithDefaults flavors definitions) definitions =
      flavorsWithDefaults flavors definitions := by
  rw [flavorsWithDefaults_of_ne_nil (flavorsWithDefaults_ne_nil flavors definitions)]
  unfold flavorsWithDefaults
  rw [List.map_map]
  simp only [Function.comp_def, Capabilities.withDefaults_withDefaults]

theorem flavorsWithDefaults_eq_of_perm (hnames : (definitions.map CapabilityDefinition.name).Nodup)
    (h : others.Perm definitions) (flavors : List MachineImageFlavor) :
    flavorsWithDefaults flavors others = flavorsWithDefaults flavors definitions := by
  unfold flavorsWithDefaults
  simp only [Capabilities.withDefaults_eq_of_perm hnames h]

/-- **Defaults normalize,** whatever is defined. -/
theorem defaultsNormalize (definitions : List CapabilityDefinition) :
    DefaultsNormalize definitions where
  names _ _ := Capabilities.mem_keys_withDefaults_iff
  stated _ _ hd _ h := Capabilities.find?_withDefaults_of_stated hd h
  unstated _ _ hd h := Capabilities.exists_definition_of_unstated hd h
  again capabilities := capabilities.withDefaults_withDefaults definitions
  flavorsAgain flavors := flavorsWithDefaults_flavorsWithDefaults flavors definitions
  anyOrder hnames _ h :=
    ⟨Capabilities.withDefaults_eq_of_perm hnames h, flavorsWithDefaults_eq_of_perm hnames h⟩

end OpenstackAdmission.Versioned
