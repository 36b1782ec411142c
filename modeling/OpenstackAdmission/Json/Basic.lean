import OpenstackAdmission.Decimal.Binary64
import OpenstackAdmission.Dict.Entries

/-!
# JSON values

A value with its numbers kept apart into whole numbers and binary fractions, and with the entries of an
object in the order of their keys. `Json.record` makes an object of named fields, some of which may be
left out; `find?_fieldEntries` says that such an object holds exactly the fields given.
-/

namespace OpenstackAdmission

/-- A number is whole, or a binary fraction even if its value is whole. -/
inductive Number where
  | whole (value : Int)
  | fraction (value : Binary64)
  deriving DecidableEq, Repr

/-- The values that a whole number may have; what lies outside is written as a fraction. -/
def Number.isWordSized (n : Int) : Bool := -(Nat.pow 2 63) ≤ n && n < Nat.pow 2 64

/-- Equality of numbers: a whole number never equals a fraction, and the two zeros are equal. -/
def Number.sameValue : Number → Number → Bool
  | .whole a, .whole b => a == b
  | .fraction a, .fraction b => a.sameValue b
  | _, _ => false

inductive Json where
  | null
  | bool (value : Bool)
  | num (value : Number)
  | str (value : String)
  | arr (items : List Json)
  | obj (entries : List (String × Json))
  deriving Repr

instance : Inhabited Json := ⟨.null⟩

namespace Json

mutual

/-- Equality of values, in which the two zeros are one number. -/
def sameValue : Json → Json → Bool
  | .null, .null => true
  | .bool a, .bool b => a == b
  | .num a, .num b => a.sameValue b
  | .str a, .str b => a == b
  | .arr a, .arr b => sameItems a b
  | .obj a, .obj b => sameEntries a b
  | _, _ => false

/-- Equality of lists of values. -/
def sameItems : List Json → List Json → Bool
  | [], [] => true
  | a :: as, b :: bs => sameValue a b && sameItems as bs
  | _, _ => false

/-- Equality of entries, keys and values. -/
def sameEntries : List (String × Json) → List (String × Json) → Bool
  | [], [] => true
  | (k, a) :: as, (l, b) :: bs => k == l && sameValue a b && sameEntries as bs
  | _, _ => false

end

instance : BEq Json := ⟨sameValue⟩

/-- The value is null. -/
def isNull : Json → Bool
  | .null => true
  | _ => false

/-- The entry of an object; no other value has entries. -/
def get? (key : String) : Json → Option Json
  | .obj entries => Entries.find? key entries
  | _ => none

/-- The fields of a record that are there, in the order of their names. -/
def fieldEntries : List (String × Option Json) → List (String × Json)
  | [] => []
  | (name, some value) :: rest => Entries.insert name value (fieldEntries rest)
  | (_, none) :: rest => fieldEntries rest

/-- An object of named fields; those without a value are left out. -/
def record (fields : List (String × Option Json)) : Json := .obj (fieldEntries fields)

def ofNat (n : Nat) : Json := .num (.whole n)

def ofInt (n : Int) : Json := .num (.whole n)

/-- A list of texts. -/
def ofStrings (texts : List String) : Json := .arr (texts.map .str)

/-- A record holds what its fields hold, the first of each name. -/
theorem find?_fieldEntries {fields : List (String × Option Json)}
    (distinct : (fields.map Prod.fst).Nodup) (key : String) :
    Entries.find? key (fieldEntries fields) = (Entries.find? key fields).join := by
  induction fields with
  | nil => rfl
  | cons f rest ih =>
    obtain ⟨name, value⟩ := f
    simp only [List.map_cons, List.nodup_cons] at distinct
    have hrest := ih distinct.2
    -- a field without a value is not written, and no later field has its name
    cases value with
    | some value =>
      rw [fieldEntries, Entries.find?_insert]
      by_cases h : key = name <;> simp [h, hrest]
    | none =>
      rw [fieldEntries, hrest]
      by_cases h : key = name
      · subst h
        rw [Entries.find?_of_not_mem distinct.1]
        simp
      · simp [h]

end Json

end OpenstackAdmission
