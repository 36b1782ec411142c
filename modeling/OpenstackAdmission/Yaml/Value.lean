import OpenstackAdmission.Decimal.Shortest
import OpenstackAdmission.Text.Quoted

/-!
# YAML values

Mappings may have any values as keys. Equality does not depend on the order of a mapping, and tells whole
numbers from others.
-/

namespace OpenstackAdmission.Yaml

inductive Number where
  | whole (value : Int)
  | finite (value : Binary64)
  | infinite (negative : Bool)
  | notANumber
  deriving DecidableEq, Repr

namespace Number

/-- Equality of numbers; the two zeros are equal. -/
def same : Number → Number → Bool
  | .finite a, .finite b => a.sameValue b
  | a, b => a = b

def text : Number → String
  | .whole n => toString n
  | .finite x => x.dataText
  | .infinite false => ".inf"
  | .infinite true => "-.inf"
  | .notANumber => ".nan"

end Number

inductive Value where
  | null
  | bool (value : Bool)
  | number (value : Number)
  | string (value : String)
  | sequence (items : List Value)
  | mapping (entries : List (Value × Value))
  | tagged (tag : String) (value : Value)
  deriving Repr

instance : Inhabited Value := ⟨.null⟩

namespace Value

/-- A tag without an exclamation mark before it. -/
def bareTag (tag : String) : List Char :=
  match tag.toList with
  | ['!'] => ['!']
  | '!' :: rest => rest
  | cs => cs

mutual

/-- Equality of values. -/
def same : Value → Value → Bool
  | .null, .null => true
  | .bool a, .bool b => a == b
  | .number a, .number b => a.same b
  | .string a, .string b => a == b
  | .sequence as, .sequence bs => sameItems as bs
  | .mapping as, .mapping bs => as.length == bs.length && allAmong as bs
  | .tagged t a, .tagged u b => bareTag t == bareTag u && same a b
  | _, _ => false

/-- Equality of lists. -/
def sameItems : List Value → List Value → Bool
  | [], [] => true
  | a :: as, b :: bs => same a b && sameItems as bs
  | _, _ => false

/-- All entries are among others. -/
def allAmong : List (Value × Value) → List (Value × Value) → Bool
  | [], _ => true
  | (k, v) :: rest, others => others.any (fun e => same k e.1 && same v e.2) && allAmong rest others

end

/-- The value without its tags. -/
def untagged : Value → Value
  | .tagged _ v => v.untagged
  | v => v

/-- The value is null, whatever its tags. -/
def isNull (v : Value) : Bool :=
  match v.untagged with
  | .null => true
  | _ => false

/-- How a message tells a key that is there twice. -/
def keyDescription : Value → String
  | .null => "with null key"
  | .bool value => s!"with key `{value}`"
  | .number n => "with key " ++ n.text
  | .string s => "with key " ++ Text.quoted s
  | _ => "in YAML map"

end Value

end OpenstackAdmission.Yaml
