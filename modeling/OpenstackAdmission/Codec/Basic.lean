import OpenstackAdmission.Codec.Error
import OpenstackAdmission.Dict.Basic

/-!
# Types with a JSON form

A `Codec` writes the values of a type as JSON and reads them back. Here are those of texts, truth
values, numbers, lists and dictionaries; records are put together from their fields in
`OpenstackAdmission.Codec.Record`.
-/

namespace OpenstackAdmission

/-- How the values of a type are written and read. -/
class Codec (α : Type) where
  encode : α → Json
  decode : Json → Except DecodeError α

export Codec (encode decode)

section Results

variable {ε α β : Type} {x : Except ε α}

/-- A result in two steps has come through both. -/
theorem bind_eq_ok_iff {f : α → Except ε β} {b : β} :
    x >>= f = .ok b ↔ ∃ a, x = .ok a ∧ f a = .ok b := by
  cases x with
  | error e => simp only [Bind.bind, Except.bind, reduceCtorEq, false_and, exists_false]
  | ok a => simp only [Bind.bind, Except.bind, Except.ok.injEq, exists_eq_left']

/-- A result in two steps fails in the first one or in the second. -/
theorem bind_eq_error_iff {f : α → Except ε β} {e : ε} :
    x >>= f = .error e ↔ x = .error e ∨ ∃ a, x = .ok a ∧ f a = .error e := by
  cases x with
  | error e => simp only [Bind.bind, Except.bind, Except.error.injEq, reduceCtorEq, false_and,
      exists_false, or_false]
  | ok a => simp only [Bind.bind, Except.bind, Except.ok.injEq, reduceCtorEq, exists_eq_left',
      false_or]

theorem map_eq_ok_iff {f : α → β} {b : β} : x.map f = .ok b ↔ ∃ a, x = .ok a ∧ f a = b := by
  cases x with
  | error e => simp only [Except.map, reduceCtorEq, false_and, exists_false]
  | ok a => simp only [Except.map, Except.ok.injEq, exists_eq_left']

end Results

/-- Reads items in order; the first that does not decode is the fault. -/
def decodeItems {α : Type} [Codec α] : List Json → Except DecodeError (List α)
  | [] => .ok []
  | item :: rest =>
    match decode item with
    | .error e => .error e
    | .ok a => (decodeItems rest).map (a :: ·)

/-- Reads the values of entries in order; the first that does not decode is the fault. -/
def decodeEntries {α : Type} [Codec α] :
    List (String × Json) → Except DecodeError (List (String × α))
  | [] => .ok []
  | (name, value) :: rest =>
    match decode value with
    | .error e => .error e
    | .ok a => (decodeEntries rest).map ((name, a) :: ·)

instance : Codec String where
  encode := .str
  decode
    | .str s => .ok s
    | other => .error (.wrongType other.found "a string")

instance : Codec Bool where
  encode := .bool
  decode
    | .bool b => .ok b
    | other => .error (.wrongType other.found "a boolean")

/-- A whole number with bounds, as `expected` names them. -/
def decodeWhole (low high : Int) (expected : String) : Json → Except DecodeError Int
  | .num (.whole n) =>
    if low ≤ n && n ≤ high then .ok n else .error (.wrongValue (.whole n) expected)
  | other => .error (.wrongType other.found expected)

instance : Codec UInt32 where
  encode n := .ofNat n.toNat
  decode json := (decodeWhole 0 (Nat.pow 2 32 - 1) "u32" json).map fun n => UInt32.ofNat n.toNat

instance : Codec Int64 where
  encode n := .ofInt n.toInt
  decode json := (decodeWhole (-(Nat.pow 2 63)) (Nat.pow 2 63 - 1) "i64" json).map Int64.ofInt

/-- Any value is a payload as it stands. -/
instance : Codec Json where
  encode := id
  decode := .ok

instance {α : Type} [Codec α] : Codec (List α) where
  encode items := .arr (items.map encode)
  decode
    | .arr items => decodeItems items
    | other => .error (.wrongType other.found "a sequence")

instance {α : Type} [Codec α] : Codec (Dict α) where
  encode d := .obj (d.entries.map fun e => (e.1, encode e.2))
  decode
    | .obj entries => (decodeEntries entries).map Dict.ofList
    | other => .error (.wrongType other.found "a map")

end OpenstackAdmission
