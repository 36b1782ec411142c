import OpenstackAdmission.Codec.Record

/-!
# References between objects
-/

namespace OpenstackAdmission

/-- The profile that a shoot or a namespaced profile builds on. -/
structure CloudProfileReference where
  kind : String
  name : String
  deriving DecidableEq

instance : Codec CloudProfileReference where
  encode r := .record [Codec.field "kind" r.kind, Codec.field "name" r.name]
  decode := Codec.decodeRecord "CloudProfileReference"
    (CloudProfileReference.mk <$> Fields.required "kind" <*> Fields.required "name")

/-- A secret by name, in a namespace of its own if it states one. -/
structure SecretReference where
  name : String
  space : Option String
  deriving DecidableEq

instance : Codec SecretReference where
  encode r := .record [Codec.field "name" r.name, Codec.field? "namespace" r.space]
  decode := Codec.decodeRecord "SecretReference"
    (SecretReference.mk <$> Fields.required "name" <*> Fields.optional "namespace")

/-- An object of any kind. -/
structure ObjectReference where
  apiVersion : Option String
  kind : String
  name : String
  space : Option String
  deriving DecidableEq

instance : Codec ObjectReference where
  encode r := .record [
    Codec.field? "apiVersion" r.apiVersion,
    Codec.field "kind" r.kind,
    Codec.field "name" r.name,
    Codec.field? "namespace" r.space]
  decode := Codec.decodeRecord "ObjectReference"
    (ObjectReference.mk <$> Fields.optional "apiVersion" <*> Fields.required "kind"
      <*> Fields.required "name" <*> Fields.optional "namespace")

end OpenstackAdmission
