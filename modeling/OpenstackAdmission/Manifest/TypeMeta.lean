import OpenstackAdmission.Codec.Record

/-!
# Version and kind of a document
-/

namespace OpenstackAdmission

/-- The version and kind that a document states. -/
structure TypeMeta where
  apiVersion : Option String := none
  kind : Option String := none
  deriving DecidableEq

namespace TypeMeta

def fields : Fields TypeMeta :=
  TypeMeta.mk <$> Fields.optional "apiVersion" <*> Fields.optional "kind"

/-- The entries that a document with this version and kind begins with. -/
def entries (m : TypeMeta) : List (String × Option Json) :=
  [Codec.field? "apiVersion" m.apiVersion, Codec.field? "kind" m.kind]

instance : Codec TypeMeta where
  encode m := .record m.entries
  decode := Codec.decodeRecord "TypeMeta" fields

end TypeMeta

end OpenstackAdmission
