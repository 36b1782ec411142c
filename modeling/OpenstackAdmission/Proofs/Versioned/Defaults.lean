import OpenstackAdmission.Versioned.Defaults

/-!
# Capabilities with defaults, by name

With defaults, exactly the defined names have values: the stated ones, or else all that are defined
(`find?_withDefaults`). So a value that is stated for a defined name is kept, even if it is none at all, and
where neither a statement nor a definition is without values, nothing is.
-/

namespace OpenstackAdmission.Versioned

/-- Every defined name with all its values. -/
def everyValue (definitions : List CapabilityDefinition) : Capabilities :=
  Dict.ofList (definitions.map fun d => (d.name, d.values))

namespace Capabilities

variable {capabilities : Capabilities} {definitions : List CapabilityDefinition} {name : String}
  {values : CapabilityValues}

theorem withDefaults_empty (definitions : List CapabilityDefinition) :
    withDefaults Dict.empty definitions = everyValue definitions := by
  unfold withDefaults everyValue
  simp only [Dict.find?_empty, Option.getD_none]

/-- The values of a name; of several definitions of it the last counts. -/
theorem find?_withDefaults (capabilities : Capabilities) (definitions : List CapabilityDefinition)
    (name : String) :
    (capabilities.withDefaults definitions).find? name =
      (definitions.reverse.find? (·.name = name)).map fun d =>
        (capabilities.find? name).getD d.values := by
  unfold withDefaults
  rw [Dict.find?_ofList, ← List.map_reverse, Entries.find?_map]
  cases h : definitions.reverse.find? fun d => d.name = name with
  | none => rfl
  | some d =>
    have hname : d.name = name := by simpa using List.find?_some h
    rw [Option.map_some, Option.map_some, hname]

/-- What is stated for a defined name stays. -/
theorem find?_withDefaults_of_stated {d : CapabilityDefinition} (hd : d ∈ definitions)
    (h : capabilities.find? d.name = some values) :
    (capabilities.withDefaults definitions).find? d.name = some values := by
  have hdefined : (definitions.reverse.find? (·.name = d.name)).isSome = true :=
    List.find?_isSome.mpr ⟨d, List.mem_reverse.mpr hd, decide_eq_true rfl⟩
  obtain ⟨other, hother⟩ := Option.isSome_iff_exists.mp hdefined
  rw [find?_withDefaults, hother, Option.map_some, h, Option.getD_some]

/-- Defaults add no name without values. -/
theorem values_ne_nil_of_find?_withDefaults
    (hstated : ∀ e ∈ capabilities.entries, e.2.values ≠ [])
    (hdefined : ∀ d ∈ definitions, d.values.values ≠ [])
    (h : (capabilities.withDefaults definitions).find? name = some values) :
    values.values ≠ [] := by
  rw [find?_withDefaults] at h
  obtain ⟨d, hd, rfl⟩ := Option.map_eq_some_iff.mp h
  cases hfind : capabilities.find? name with
  | none => exact hdefined d (List.mem_reverse.mp (List.mem_of_find?_eq_some hd))
  | some stated => exact hstated (name, stated) (Dict.find?_eq_some_iff.mp hfind)

end Capabilities

end OpenstackAdmission.Versioned
