import OpenstackAdmission.Checks.TextField
import OpenstackAdmission.Config.CloudProfile
import OpenstackAdmission.Config.Worker
import OpenstackAdmission.Manifest.Shoot

/-!
# Worker pools

Every pool has zones, which may only be added at the end later. Its provider configuration chooses a
policy of the cloud profile, and labels machines with names that the pool does not use for its nodes.

The operations `validate_worker_config` with `validate_server_group` and `validate_machine_labels`,
`validate_workers` and `validate_workers_update` (specification, sections 4.5 and 12.4).
-/

namespace OpenstackAdmission

/-- The policy that puts all machines of a pool on one host. -/
def affinityPolicy : String := "affinity"

/-- Checks that the cloud profile offers the policy of a server group. -/
def ServerGroup.check (g : ServerGroup) (profile : CloudProfileConfig) (path : FieldPath) :
    List FieldError :=
  let path := path.child "policy"
  if g.policy = "" then [.invalid path (.str g.policy) "policy field cannot be empty"]
  else
    errorIf (g.policy ∉ profile.serverGroupPolicies)
      (.invalid path (.str g.policy) "no matching server group policy found in cloudprofile")

/-- Checks the labels of the machines of a pool. -/
def MachineLabel.checkAll (labels : List MachineLabel) (worker : Worker) (path : FieldPath) :
    List FieldError :=
  checkEachAfter path labels fun path earlier label =>
    let namePath := path.child "name"
    TextCheck.machineLabelName label.name namePath
    ++ TextCheck.machineLabelValue label.value (path.child "value")
    ++ if earlier.any (·.name = label.name) then [.duplicate namePath (.str label.name)]
      else
        errorIf (worker.labels.contains label.name)
          (.invalid namePath (.str label.name) "label name already defined as pool label")

/-- Checks the provider configuration of a pool. -/
def WorkerConfig.check (c : WorkerConfig) (worker : Worker) (profile : CloudProfileConfig)
    (path : FieldPath) : List FieldError :=
  (match c.serverGroup with
    | none => []
    | some group =>
      let path := path.child "serverGroup"
      group.check profile path
      ++ errorIf (group.policy = affinityPolicy && 1 < worker.zones.length)
        (.forbidden (path.child "policy")
          ("using " ++ Text.quoted affinityPolicy
            ++ " policy with multiple availability zones is not allowed")))
  ++ MachineLabel.checkAll c.machineLabels worker (path.child "machineLabels")

namespace Worker

/-- Checks one pool. -/
def check (worker : Worker) (profile : CloudProfileConfig) (path : FieldPath) :
    List FieldError :=
  errorIf (worker.zones = [])
    (.required (path.child "zones") "at least one zone must be configured")
  ++ match worker.providerConfig with
    | none => []
    | some payload =>
      let path := path.child "providerConfig"
      match (decode payload : Except DecodeError WorkerConfig) with
      | .ok config => config.check worker profile path
      | .error e =>
        [.invalid path payload ("providerConfig could not be decoded: " ++ e.message)]

/-- Checks all pools of a shoot. -/
def checkAll (workers : List Worker) (profile : CloudProfileConfig) (path : FieldPath) :
    List FieldError :=
  checkEach path workers fun path worker => worker.check profile path

/-- The pool of a name. -/
def find? (workers : List Worker) (name : String) : Option Worker :=
  workers.find? (·.name = name)

/-- Checks a change of the pools: zones of a pool that there was are only added at the end. -/
def checkUpdate (old workers : List Worker) (path : FieldPath) : List FieldError :=
  checkEach path workers fun path worker =>
    match find? old worker.name with
    | none => []
    | some before =>
      errorIf (!before.zones.isPrefixOf worker.zones)
        (.invalid (path.child "zones") (.ofStrings worker.zones) "field is immutable")

end Worker

end OpenstackAdmission
