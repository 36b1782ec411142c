import OpenstackAdmission.Config.LoadBalancer
import OpenstackAdmission.Manifest.TypeMeta

/-!
# Control plane configuration of shoots
-/

namespace OpenstackAdmission

/-- Shared file systems for the shoot. -/
structure CsiManila where
  enabled : Bool
  deriving DecidableEq

instance : Codec CsiManila where
  encode m := .record [Codec.field "enabled" m.enabled]
  decode := Codec.decodeRecord "CsiManila" (CsiManila.mk <$> Fields.defaulted "enabled" false)

structure Storage where
  csiManila : Option CsiManila
  deriving DecidableEq

instance : Codec Storage where
  encode s := .record [Codec.field? "csiManila" s.csiManila]
  decode := Codec.decodeRecord "Storage" (Storage.mk <$> Fields.optional "csiManila")

structure ControlPlaneConfig where
  typeMeta : TypeMeta
  loadBalancerProvider : String
  loadBalancerClasses : List LoadBalancerClass
  storage : Option Storage
  deriving DecidableEq

instance : Codec ControlPlaneConfig where
  encode c := .record (c.typeMeta.entries ++ [
    Codec.field "loadBalancerProvider" c.loadBalancerProvider,
    Codec.field "loadBalancerClasses" c.loadBalancerClasses,
    Codec.field? "storage" c.storage])
  decode := Codec.decodeNamed "struct ControlPlaneConfig"
    (ControlPlaneConfig.mk <$> Fields.afterOthers TypeMeta.fields
      <*> Fields.defaulted "loadBalancerProvider" ""
      <*> Fields.defaulted "loadBalancerClasses" [] <*> Fields.optional "storage")

/-- The shoot wants shared file systems. -/
def ControlPlaneConfig.wantsManila (c : ControlPlaneConfig) : Bool :=
  (c.storage.bind Storage.csiManila).any CsiManila.enabled

end OpenstackAdmission
