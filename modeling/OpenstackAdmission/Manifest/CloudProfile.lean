import OpenstackAdmission.Manifest.MachineImage
import OpenstackAdmission.Manifest.ObjectMeta
import OpenstackAdmission.Manifest.Reference

/-!
# Cloud profiles

A cloud profile says what shoots of a landscape may use; a namespaced one adds machine images to it for
one namespace. Their provider configuration is a payload here.
-/

namespace OpenstackAdmission

structure CloudProfileSpec where
  providerType : String
  machineImages : List MachineImage
  machineCapabilities : List CapabilityDefinition
  providerConfig : Option Json

instance : Codec CloudProfileSpec where
  encode s := .record [
    Codec.field "type" s.providerType,
    Codec.field "machineImages" s.machineImages,
    Codec.field "machineCapabilities" s.machineCapabilities,
    Codec.field? "providerConfig" s.providerConfig]
  decode := Codec.decodeRecord "CloudProfileSpec"
    (CloudProfileSpec.mk <$> Fields.required "type" <*> Fields.defaulted "machineImages" []
      <*> Fields.defaulted "machineCapabilities" [] <*> Fields.optional "providerConfig")

structure CloudProfile where
  metadata : ObjectMeta
  spec : CloudProfileSpec

instance : Codec CloudProfile where
  encode p := .record [Codec.field "metadata" p.metadata, Codec.field "spec" p.spec]
  decode := Codec.decodeRecord "CloudProfile"
    (CloudProfile.mk <$> Fields.defaulted "metadata" {} <*> Fields.required "spec")

structure NamespacedCloudProfileSpec where
  parent : CloudProfileReference
  machineImages : List MachineImage
  providerConfig : Option Json

instance : Codec NamespacedCloudProfileSpec where
  encode s := .record [
    Codec.field "parent" s.parent,
    Codec.field "machineImages" s.machineImages,
    Codec.field? "providerConfig" s.providerConfig]
  decode := Codec.decodeRecord "NamespacedCloudProfileSpec"
    (NamespacedCloudProfileSpec.mk <$> Fields.required "parent"
      <*> Fields.defaulted "machineImages" [] <*> Fields.optional "providerConfig")

structure NamespacedCloudProfile where
  metadata : ObjectMeta
  spec : NamespacedCloudProfileSpec

instance : Codec NamespacedCloudProfile where
  encode p := .record [Codec.field "metadata" p.metadata, Codec.field "spec" p.spec]
  decode := Codec.decodeRecord "NamespacedCloudProfile"
    (NamespacedCloudProfile.mk <$> Fields.defaulted "metadata" {} <*> Fields.required "spec")

end OpenstackAdmission
