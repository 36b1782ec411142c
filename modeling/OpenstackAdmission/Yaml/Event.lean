import OpenstackAdmission.Yaml.Token

/-!
# Events of YAML

The events of a document are its texts, and the beginnings and ends of its collections. An alias refers to
an event before it: in a text by the name of an anchor, in a document by a number.
-/

namespace OpenstackAdmission.Yaml

/-- What stands before a value and says something about it. -/
structure Properties where
  anchor : Option String
  tag : Option TagText
  deriving DecidableEq, Repr

inductive Event (Reference : Type) where
  | alias (reference : Reference)
  | scalar (properties : Properties) (text : String) (plain : Bool)
  | sequenceStart (properties : Properties)
  | sequenceEnd
  | mappingStart (properties : Properties)
  | mappingEnd
  deriving DecidableEq, Repr

def Properties.none : Properties := ⟨.none, .none⟩

/-- A value that is not written. -/
def Event.missing {Reference : Type} : Event Reference := .scalar .none "" true

end OpenstackAdmission.Yaml
