import OpenstackAdmission.Manifest.TypeMeta

/-!
# Infrastructure configuration of shoots
-/

namespace OpenstackAdmission

/-- A router that exists already. -/
structure Router where
  id : String
  deriving DecidableEq

instance : Codec Router where
  encode r := .record [Codec.field "id" r.id]
  decode := Codec.decodeRecord "Router" (Router.mk <$> Fields.required "id")

structure ShareNetwork where
  enabled : Bool
  deriving DecidableEq

instance : Codec ShareNetwork where
  encode n := .record [Codec.field "enabled" n.enabled]
  decode := Codec.decodeRecord "ShareNetwork"
    (ShareNetwork.mk <$> Fields.defaulted "enabled" false)

structure Networks where
  router : Option Router := none
  /-- The older field for the network of the workers. -/
  worker : Option String := none
  workers : Option String := none
  id : Option String := none
  subnetId : Option String := none
  shareNetwork : Option ShareNetwork := none
  deriving DecidableEq

instance : Codec Networks where
  encode n := .record [
    Codec.field? "router" n.router,
    Codec.field? "worker" n.worker,
    Codec.field? "workers" n.workers,
    Codec.field? "id" n.id,
    Codec.field? "subnetId" n.subnetId,
    Codec.field? "shareNetwork" n.shareNetwork]
  decode := Codec.decodeRecord "Networks"
    (Networks.mk <$> Fields.optional "router" <*> Fields.optional "worker"
      <*> Fields.optional "workers" <*> Fields.optional "id" <*> Fields.optional "subnetId"
      <*> Fields.optional "shareNetwork")

structure InfrastructureConfig where
  typeMeta : TypeMeta
  floatingPoolName : String
  floatingPoolSubnetName : Option String
  networks : Networks
  deriving DecidableEq

instance : Codec InfrastructureConfig where
  encode c := .record (c.typeMeta.entries ++ [
    Codec.field "floatingPoolName" c.floatingPoolName,
    Codec.field? "floatingPoolSubnetName" c.floatingPoolSubnetName,
    Codec.field "networks" c.networks])
  decode := Codec.decodeNamed "struct InfrastructureConfig"
    (InfrastructureConfig.mk <$> Fields.afterOthers TypeMeta.fields
      <*> Fields.defaulted "floatingPoolName" "" <*> Fields.optional "floatingPoolSubnetName"
      <*> Fields.defaulted "networks" {})

end OpenstackAdmission
