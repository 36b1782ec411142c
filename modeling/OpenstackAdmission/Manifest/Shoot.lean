import OpenstackAdmission.Manifest.ObjectMeta
import OpenstackAdmission.Manifest.Reference

/-!
# Shoots

A shoot is a cluster that somebody asks for: its region, its networks, its pools of workers, and the
payloads that configure its infrastructure and its control plane.
-/

namespace OpenstackAdmission

/-- A pool of machines. -/
structure Worker where
  name : String
  zones : List String
  /-- Labels of the nodes of the pool. -/
  labels : Dict String
  providerConfig : Option Json

instance : Codec Worker where
  encode w := .record [
    Codec.field "name" w.name,
    Codec.field "zones" w.zones,
    Codec.field "labels" w.labels,
    Codec.field? "providerConfig" w.providerConfig]
  decode := Codec.decodeRecord "Worker"
    (Worker.mk <$> Fields.required "name" <*> Fields.defaulted "zones" []
      <*> Fields.defaulted "labels" Dict.empty <*> Fields.optional "providerConfig")

structure Networking where
  nodes : Option String
  pods : Option String
  services : Option String
  deriving DecidableEq

instance : Codec Networking where
  encode n := .record [
    Codec.field? "nodes" n.nodes,
    Codec.field? "pods" n.pods,
    Codec.field? "services" n.services]
  decode := Codec.decodeRecord "Networking"
    (Networking.mk <$> Fields.optional "nodes" <*> Fields.optional "pods"
      <*> Fields.optional "services")

structure ShootProvider where
  providerType : String
  infrastructureConfig : Option Json
  controlPlaneConfig : Option Json
  workers : List Worker

instance : Codec ShootProvider where
  encode p := .record [
    Codec.field "type" p.providerType,
    Codec.field? "infrastructureConfig" p.infrastructureConfig,
    Codec.field? "controlPlaneConfig" p.controlPlaneConfig,
    Codec.field "workers" p.workers]
  decode := Codec.decodeRecord "ShootProvider"
    (ShootProvider.mk <$> Fields.required "type" <*> Fields.optional "infrastructureConfig"
      <*> Fields.optional "controlPlaneConfig" <*> Fields.defaulted "workers" [])

structure ShootSpec where
  cloudProfileName : Option String
  cloudProfile : Option CloudProfileReference
  region : String
  secretBindingName : Option String
  credentialsBindingName : Option String
  networking : Option Networking
  provider : ShootProvider

instance : Codec ShootSpec where
  encode s := .record [
    Codec.field? "cloudProfileName" s.cloudProfileName,
    Codec.field? "cloudProfile" s.cloudProfile,
    Codec.field "region" s.region,
    Codec.field? "secretBindingName" s.secretBindingName,
    Codec.field? "credentialsBindingName" s.credentialsBindingName,
    Codec.field? "networking" s.networking,
    Codec.field "provider" s.provider]
  decode := Codec.decodeRecord "ShootSpec"
    (ShootSpec.mk <$> Fields.optional "cloudProfileName" <*> Fields.optional "cloudProfile"
      <*> Fields.required "region" <*> Fields.optional "secretBindingName"
      <*> Fields.optional "credentialsBindingName" <*> Fields.optional "networking"
      <*> Fields.required "provider")

/-- The profile of a shoot; a bare name refers to a cloud profile. -/
def ShootSpec.profileReference? (s : ShootSpec) : Option CloudProfileReference :=
  match s.cloudProfile with
  | some reference => some reference
  | none => s.cloudProfileName.map fun name => { kind := "CloudProfile", name }

structure Shoot where
  metadata : ObjectMeta
  spec : ShootSpec

instance : Codec Shoot where
  encode s := .record [Codec.field "metadata" s.metadata, Codec.field "spec" s.spec]
  decode := Codec.decodeRecord "Shoot"
    (Shoot.mk <$> Fields.defaulted "metadata" {} <*> Fields.required "spec")

end OpenstackAdmission
