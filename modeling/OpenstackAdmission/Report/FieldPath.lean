/-!
# Paths of fields

Where in a document something stands, as in `spec.machineImages[0].name`.

What `FieldPath` is to all checks (specification, sections 6 and 13).
-/

namespace OpenstackAdmission

/-- One step into a document. -/
inductive Segment where
  | field (name : String)
  | index (position : Nat)
  | key (name : String)
  deriving DecidableEq, Repr

/-- The steps from the root of a document to a field. -/
structure FieldPath where
  segments : List Segment
  deriving DecidableEq, Repr

namespace FieldPath

/-- The path of field names. -/
def ofFields (names : List String) : FieldPath := ⟨names.map .field⟩

/-- The path that begins at a name, which may hold dots. -/
def root (name : String) : FieldPath := ofFields [name]

def child (path : FieldPath) (name : String) : FieldPath := ⟨path.segments ++ [.field name]⟩

def index (path : FieldPath) (position : Nat) : FieldPath := ⟨path.segments ++ [.index position]⟩

def key (path : FieldPath) (name : String) : FieldPath := ⟨path.segments ++ [.key name]⟩

/-- A segment behind others: a dot goes before a field. -/
def segmentText : Segment → String
  | .field name => "." ++ name
  | .index position => "[" ++ toString position ++ "]"
  | .key name => "[" ++ name ++ "]"

/-- Segments behind others. -/
def restText (segments : List Segment) : String := String.join (segments.map segmentText)

/-- The text of a path. A field at the front has no dot. -/
def text (path : FieldPath) : String :=
  match path.segments with
  | .field name :: rest => name ++ restText rest
  | segments => restText segments

end FieldPath

end OpenstackAdmission
