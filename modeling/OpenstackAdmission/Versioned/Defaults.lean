import OpenstackAdmission.Versioned.Basic

/-!
# Capabilities with defaults

A capability that a flavor does not state has every value of its definition, and one without a
definition does not count. `Capabilities.withDefaults` brings both into a normal form, in which flavors
are compared.

The defaults of capabilities, as the machine image matrix applies them (specification, section 4.4).
-/

namespace OpenstackAdmission.Versioned

/-- The capabilities of all definitions: the values stated, or else all values defined. -/
def Capabilities.withDefaults (capabilities : Capabilities)
    (definitions : List CapabilityDefinition) : Capabilities :=
  Dict.ofList (definitions.map fun d => (d.name, (capabilities.find? d.name).getD d.values))

/-- Flavors with defaults. No flavor at all stands for one that supports everything. -/
def flavorsWithDefaults (flavors : List MachineImageFlavor)
    (definitions : List CapabilityDefinition) : List MachineImageFlavor :=
  let flavors := if flavors = [] then [{ capabilities := Dict.empty }] else flavors
  flavors.map fun flavor => { capabilities := flavor.capabilities.withDefaults definitions }

end OpenstackAdmission.Versioned
