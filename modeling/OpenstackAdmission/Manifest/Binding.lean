import OpenstackAdmission.Manifest.ObjectMeta
import OpenstackAdmission.Manifest.Reference

/-!
# Bindings

A binding lets the shoots of its namespace use credentials.
-/

namespace OpenstackAdmission

/-- The provider that a binding is made for. -/
structure BindingProvider where
  providerType : String
  deriving DecidableEq

instance : Codec BindingProvider where
  encode p := .record [Codec.field "type" p.providerType]
  decode := Codec.decodeRecord "BindingProvider" (BindingProvider.mk <$> Fields.required "type")

structure SecretBinding where
  metadata : ObjectMeta
  secretRef : SecretReference
  provider : Option BindingProvider

instance : Codec SecretBinding where
  encode b := .record [
    Codec.field "metadata" b.metadata,
    Codec.field "secretRef" b.secretRef,
    Codec.field? "provider" b.provider]
  decode := Codec.decodeRecord "SecretBinding"
    (SecretBinding.mk <$> Fields.defaulted "metadata" {} <*> Fields.required "secretRef"
      <*> Fields.optional "provider")

structure CredentialsBinding where
  metadata : ObjectMeta
  credentialsRef : ObjectReference
  provider : BindingProvider

instance : Codec CredentialsBinding where
  encode b := .record [
    Codec.field "metadata" b.metadata,
    Codec.field "credentialsRef" b.credentialsRef,
    Codec.field "provider" b.provider]
  decode := Codec.decodeRecord "CredentialsBinding"
    (CredentialsBinding.mk <$> Fields.defaulted "metadata" {} <*> Fields.required "credentialsRef"
      <*> Fields.required "provider")

end OpenstackAdmission
