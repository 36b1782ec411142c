import OpenstackAdmission.Manifest.ObjectMeta
import OpenstackAdmission.Text.Utf8

/-!
# Secrets

A secret holds values under keys, as bytes in `data` and as texts in `stringData`. `Secret.value` is
the value that counts: the text if there is one, and else the text that the bytes hold.
-/

namespace OpenstackAdmission

/-- Bytes, written in base64. -/
structure Bytes where
  bytes : List UInt8
  deriving DecidableEq

instance : Codec Bytes where
  encode b := .str (Text.Base64.encode b.bytes)
  decode
    | .str s =>
      match Text.Base64.decode (Text.Utf8.encode s) with
      | .ok bytes => .ok ⟨bytes⟩
      | .error fault => .error (.notBase64 fault)
    | .null => .ok ⟨[]⟩
    | other => .error (.wrongType other.found "a base64-encoded string")

structure Secret where
  data : Option (Dict Bytes) := none
  immutable : Option Bool := none
  metadata : ObjectMeta := {}
  stringData : Option (Dict String) := none
  secretType : Option String := none

namespace Secret

def fields : Fields Secret :=
  (fun _ data immutable _ metadata stringData secretType =>
    { data, immutable, metadata := metadata.getD {}, stringData, secretType })
    <$> Fields.marker "apiVersion" "v1" <*> Fields.optional "data"
    <*> Fields.optional "immutable" <*> Fields.marker "kind" "Secret"
    <*> (Fields.optional "metadata" : Fields (Option ObjectMeta))
    <*> Fields.optional "stringData" <*> Fields.optional "type"

instance : Codec Secret where
  encode s := .record [
    Codec.field "apiVersion" "v1",
    Codec.field? "data" s.data,
    Codec.field? "immutable" s.immutable,
    Codec.field "kind" "Secret",
    Codec.field "metadata" s.metadata,
    Codec.field? "stringData" s.stringData,
    Codec.field? "type" s.secretType]
  decode := Codec.decodeNamed "Secret" fields

/-- The value of a key, which `stringData` gives before `data`. Bytes have to be UTF-8. -/
def value (secret : Secret) (key : String) : Except Text.Utf8.Fault (Option String) :=
  match secret.stringData.bind (·.find? key) with
  | some text => .ok (some text)
  | none =>
    match secret.data.bind (·.find? key) with
    | some b => (Text.Utf8.decode b.bytes).map some
    | none => .ok none

/-- The value of a key, if it is there, not empty, and a text. -/
def nonEmptyValue? (secret : Secret) (key : String) : Option String :=
  match secret.value key with
  | .ok (some text) => if text = "" then none else some text
  | _ => none

end Secret

end OpenstackAdmission
