import OpenstackAdmission.Codec.Basic

/-!
# Records

A record is read field by field, either from an object by names or from a list by places. All fields
are read, and of several faults one is reported: in an object a value that does not decode comes before
a field that is missing, the value with the least name first; in a list the first place decides. Fields
that are not part of the record are ignored in an object.
-/

namespace OpenstackAdmission

/-- Where the fields of a record stand. -/
inductive Layout where
  | named (entries : List (String × Json))
  | placed (items : List Json)

/-- The value of the field with this name, which has this place among the fields of its record. -/
def Layout.find? : Layout → String → Nat → Option Json
  | .named entries, name, _ => Entries.find? name entries
  | .placed items, _, place => items[place]?

/-- A field that could not be read. -/
structure FieldFault where
  name : String
  place : Nat
  /-- The fault of its value; a field without value is missing. -/
  cause : Option DecodeError
  /-- The field is looked at after all others. -/
  late : Bool := false

/-- A reader of neighbouring fields of a record. -/
structure Fields (α : Type) where
  /-- The number of fields. -/
  width : Nat
  /-- Reads the fields, the first of which has the given place. -/
  read : Layout → Nat → Except (List FieldFault) α

namespace Fields

variable {α β : Type}

def map (f : α → β) (fields : Fields α) : Fields β :=
  ⟨fields.width, fun layout place => (fields.read layout place).map f⟩

/-- Fields and the fields after them; the faults of both count. -/
def seq (front : Fields (α → β)) (back : Fields α) : Fields β where
  width := front.width + back.width
  read layout place :=
    match front.read layout place, back.read layout (place + front.width) with
    | .ok f, .ok a => .ok (f a)
    | .error e, .ok _ => .error e
    | .ok _, .error e => .error e
    | .error e, .error e' => .error (e ++ e')

instance : Functor Fields where
  map := Fields.map

instance : Seq Fields where
  seq f a := Fields.seq f (a ())

/-- One field: what its value, if there is one, is read as. -/
def field (name : String) (decodeField : Option Json → Except (Option DecodeError) α) :
    Fields α where
  width := 1
  read layout place :=
    match decodeField (layout.find? name place) with
    | .ok a => .ok a
    | .error cause => .error [{ name, place, cause }]

/-- The value of a field which is there. -/
def decodeFieldValue [Codec α] (value : Json) : Except (Option DecodeError) α :=
  match decode value with
  | .ok a => .ok a
  | .error e => .error (some e)

/-- A field that has to be there. -/
def required [Codec α] (name : String) : Fields α :=
  field name fun
    | some value => decodeFieldValue value
    | none => .error none

/-- A field that may be left out, for a default. -/
def defaulted [Codec α] (name : String) (default : α) : Fields α :=
  field name fun
    | some value => decodeFieldValue value
    | none => .ok default

/-- A field that may be left out or null. -/
def optional [Codec α] (name : String) : Fields (Option α) :=
  field name fun
    | some value => if value.isNull then .ok none else (decodeFieldValue value).map some
    | none => .ok none

/-- A field that is never written back but has to hold one text if it is there. -/
def marker (name expected : String) : Fields Unit :=
  field name fun
    | none => .ok ()
    | some value =>
      match (decodeFieldValue value : Except _ String) with
      | .error e => .error e
      | .ok text =>
        if text = expected then .ok ()
        else .error (some (.wrongValue (.text text) expected))

/-- The same fields, looked at after all others. -/
def afterOthers (fields : Fields α) : Fields α where
  width := fields.width
  read layout place :=
    match fields.read layout place with
    | .ok a => .ok a
    | .error faults => .error (faults.map fun f => { f with late := true })

end Fields

/-- Of two faults in an object, whether the first is found before the second: a bad value before a
missing field, bad values in the order of names, missing fields in the order of the record. -/
def FieldFault.before (a b : FieldFault) : Bool :=
  if a.late != b.late then b.late
  else match a.cause, b.cause with
    | some _, some _ => a.name < b.name
    | some _, none => true
    | none, some _ => false
    | none, none => a.place < b.place

/-- The fault that is found first. -/
def FieldFault.first (fault : FieldFault) (others : List FieldFault) : FieldFault :=
  others.foldl (fun best f => if f.before best then f else best) fault

namespace Codec

variable {α : Type}

/-- The error of a record in an object. -/
def namedError : List FieldFault → DecodeError
  | [] => .missingField ""
  | fault :: rest =>
    let fault := fault.first rest
    fault.cause.getD (.missingField fault.name)

/-- The error of a record in a list: the first bad item, or else the first field without item. -/
def placedError (record : String) (size : Nat) (faults : List FieldFault) : DecodeError :=
  match faults.findSome? FieldFault.cause, faults with
  | some e, _ => e
  | none, fault :: _ => .tooShort fault.place record size
  | none, [] => .tooLong 0

/-- Reads a record from an object only. -/
def decodeNamed (expected : String) (fields : Fields α) : Json → Except DecodeError α
  | .obj entries => (fields.read (.named entries) 0).mapError namedError
  | other => .error (.wrongType other.found expected)

/-- Reads a record from an object, or from a list with the fields in the order of the record. -/
def decodeRecord (record : String) (fields : Fields α) : Json → Except DecodeError α
  | .arr items =>
    match fields.read (.placed items) 0 with
    | .error faults => .error (placedError record fields.width faults)
    | .ok a => if fields.width < items.length then .error (.tooLong items.length) else .ok a
  | other => decodeNamed s!"struct {record}" fields other

/-- A field that is always written. -/
def field [Codec α] (name : String) (value : α) : String × Option Json := (name, some (encode value))

/-- A field that is written if it has a value. -/
def field? [Codec α] (name : String) (value : Option α) : String × Option Json :=
  (name, value.map encode)

end Codec

end OpenstackAdmission
