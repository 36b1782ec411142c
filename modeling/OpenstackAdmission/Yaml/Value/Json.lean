import OpenstackAdmission.Codec.Error
import OpenstackAdmission.Yaml.Value

/-!
# YAML values as JSON

A mapping whose keys are texts is an object; of several keys with one text the last counts. Numbers that
JSON does not have become null. A value with a tag of its own is nothing that JSON knows, but a key may
have one.
-/

namespace OpenstackAdmission.Yaml.Value

/-- What a value is called where another was expected. -/
def found : Value → Found
  | .null => .other "unit value"
  | .bool value => .bool value
  | .number (.whole value) => .whole value
  | .number (.finite value) => .fraction value
  | .number (.infinite false) => .other "floating point `inf`"
  | .number (.infinite true) => .other "floating point `-inf`"
  | .number .notANumber => .other "floating point `NaN`"
  | .string value => .text value
  | .sequence _ => .sequence
  | .mapping _ => .map
  | .tagged _ _ => .other "enum"

def numberJson : Number → Json
  | .whole n => .num (.whole n)
  | .finite x => .num (.fraction x)
  | _ => .null

/-- The text of a key. -/
def keyText (expected : String) (key : Value) : Except DecodeError String :=
  match key.untagged with
  | .string s => .ok s
  | other => .error (.wrongType other.found expected)

mutual

def toJson : Value → Except DecodeError Json
  | .null => .ok .null
  | .bool value => .ok (.bool value)
  | .number n => .ok (numberJson n)
  | .string s => .ok (.str s)
  | .sequence items => (itemsJson items).map .arr
  | .mapping entries => (entriesJson "a string key" entries).map fun es => .obj (Entries.sort es)
  | .tagged tag v => .error (.wrongType (found (.tagged tag v)) "any valid JSON value")

def itemsJson : List Value → Except DecodeError (List Json)
  | [] => .ok []
  | v :: rest => do
    let v ← toJson v
    let rest ← itemsJson rest
    return v :: rest

/-- The entries of an object. The first key is asked for in words of its own. -/
def entriesJson (expected : String) :
    List (Value × Value) → Except DecodeError (List (String × Json))
  | [] => .ok []
  | (key, v) :: rest => do
    let key ← keyText expected key
    let v ← toJson v
    let rest ← entriesJson "a string" rest
    return (key, v) :: rest

end

end OpenstackAdmission.Yaml.Value
