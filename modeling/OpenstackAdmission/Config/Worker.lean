import OpenstackAdmission.Manifest.TypeMeta

/-!
# Provider configuration of worker pools
-/

namespace OpenstackAdmission

/-- How the machines of a pool are spread over hosts. -/
structure ServerGroup where
  policy : String
  deriving DecidableEq

instance : Codec ServerGroup where
  encode g := .record [Codec.field "policy" g.policy]
  decode := Codec.decodeRecord "ServerGroup" (ServerGroup.mk <$> Fields.defaulted "policy" "")

/-- A label of the machines of a pool, not of their nodes. -/
structure MachineLabel where
  name : String
  value : String
  triggerRollingOnUpdate : Bool
  deriving DecidableEq

instance : Codec MachineLabel where
  encode l := .record [
    Codec.field "name" l.name,
    Codec.field "value" l.value,
    Codec.field "triggerRollingOnUpdate" l.triggerRollingOnUpdate]
  decode := Codec.decodeRecord "MachineLabel"
    (MachineLabel.mk <$> Fields.required "name" <*> Fields.required "value"
      <*> Fields.defaulted "triggerRollingOnUpdate" false)

structure WorkerConfig where
  typeMeta : TypeMeta
  serverGroup : Option ServerGroup
  machineLabels : List MachineLabel
  deriving DecidableEq

instance : Codec WorkerConfig where
  encode c := .record (c.typeMeta.entries ++ [
    Codec.field? "serverGroup" c.serverGroup,
    Codec.field "machineLabels" c.machineLabels])
  decode := Codec.decodeNamed "struct WorkerConfig"
    (WorkerConfig.mk <$> Fields.afterOthers TypeMeta.fields <*> Fields.optional "serverGroup"
      <*> Fields.defaulted "machineLabels" [])

end OpenstackAdmission
