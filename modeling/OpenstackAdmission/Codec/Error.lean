import OpenstackAdmission.Json.Basic
import OpenstackAdmission.Decimal.Shortest
import OpenstackAdmission.Text.Base64
import OpenstackAdmission.Text.Quoted
import OpenstackAdmission.Time.Fault

/-!
# Why a value does not decode

`DecodeError` tells the causes apart; `DecodeError.message` gives each its wording.
-/

namespace OpenstackAdmission

/-- What stands where something else was expected. -/
inductive Found where
  | null
  | bool (value : Bool)
  | whole (value : Int)
  | fraction (value : Binary64)
  | text (value : String)
  | sequence
  | map
  /-- Anything that has a name of its own. -/
  | other (name : String)
  deriving DecidableEq, Repr

def Found.description : Found → String
  | .null => "null"
  | .bool value => s!"boolean `{value}`"
  | .whole value => s!"integer `{value}`"
  | .fraction value => "floating point `" ++ value.proseText ++ "`"
  | .text value => "string " ++ Text.quoted value
  | .sequence => "sequence"
  | .map => "map"
  | .other name => name

/-- The kind of a value, with its content where that is short. -/
def Json.found : Json → Found
  | .null => .null
  | .bool value => .bool value
  | .num (.whole value) => .whole value
  | .num (.fraction value) => .fraction value
  | .str value => .text value
  | .arr _ => .sequence
  | .obj _ => .map

inductive DecodeError where
  /-- A value of another type than expected. -/
  | wrongType (found : Found) (expected : String)
  /-- A value of the right type outside what is expected. -/
  | wrongValue (found : Found) (expected : String)
  | missingField (name : String)
  /-- A record written as a list that ends before a field without default. -/
  | tooShort (length : Nat) (record : String) (size : Nat)
  /-- A record written as a list with items left over. -/
  | tooLong (length : Nat)
  /-- A manifest of none of the known kinds. -/
  | unknownKind (kind : String) (known : List String)
  | notBase64 (fault : Text.Base64.Fault)
  | notTime (fault : Time.Fault)
  deriving DecidableEq, Repr

/-- Names between backticks, with commas. -/
private def listed (names : List String) : String :=
  String.intercalate ", " (names.map fun name => "`" ++ name ++ "`")

def DecodeError.message : DecodeError → String
  | .wrongType found expected => s!"invalid type: {found.description}, expected {expected}"
  | .wrongValue found expected => s!"invalid value: {found.description}, expected {expected}"
  | .missingField name => s!"missing field `{name}`"
  | .tooShort length record size =>
    let elements := if size = 1 then "1 element" else s!"{size} elements"
    s!"invalid length {length}, expected struct {record} with {elements}"
  | .tooLong length => s!"invalid length {length}, expected fewer elements in array"
  | .unknownKind kind known => s!"unknown variant `{kind}`, expected one of " ++ listed known
  | .notBase64 fault => fault.message
  | .notTime fault => fault.message

end OpenstackAdmission
