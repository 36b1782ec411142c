import OpenstackAdmission.Checks.ControlPlane
import OpenstackAdmission.Checks.TextField
import OpenstackAdmission.Net.Cidr

/-!
# Infrastructure of shoots

The floating pool, the networks that exist already, and the network of the workers, which is a part of the
network of the nodes. Networks never change; the floating pool has to be offered by the cloud profile if it
is new or changed.

The operations `validate_infrastructure_config`, `validate_infrastructure_config_update` and
`validate_infrastructure_config_against_cloud_profile` (specification, section 12.2).
-/

namespace OpenstackAdmission

namespace Networks

/-- The text of the network of the workers and its field: the newer field counts before the older one. -/
def effectiveWorkers (n : Networks) : String × String :=
  match n.workers, n.worker with
  | some workers, _ => (workers, "workers")
  | none, some worker => (worker, "worker")
  | none, none => ("", "workers")

end Networks

namespace InfrastructureConfig

/-- The shoot uses a router that exists already. -/
def usesRouter (c : InfrastructureConfig) : Bool := c.networks.router.any (·.id ≠ "")

/-- Checks the names of the floating pool and its subnet. -/
def checkFloatingPool (c : InfrastructureConfig) (path : FieldPath) : List FieldError :=
  TextCheck.resourceName c.floatingPoolName (path.child "floatingPoolName")
  ++ match c.floatingPoolSubnetName with
    | none => []
    | some name =>
      let path := path.child "floatingPoolSubnetName"
      TextCheck.optionalResourceName name path
      ++ errorIf c.usesRouter
        (.forbidden path "cannot select a floating pool subnet when using an existing router")

/-- Checks the IDs of a router, a network and a subnet. -/
def checkIds (n : Networks) (path : FieldPath) : List FieldError :=
  (match n.router with
    | some router => TextCheck.resourceId router.id ((path.child "router").child "id")
    | none => [])
  ++ (match n.id with
    | some id => TextCheck.resourceId id (path.child "id")
    | none => [])
  ++ match n.subnetId with
    | none => []
    | some id =>
      TextCheck.resourceId id (path.child "subnetId")
      ++ errorIf n.id.isNone
        (.invalid (path.child "subnetId") (.str id)
          "if subnetId is given, the network id must also be given")

/-- Checks the network of the workers, given that of the nodes. -/
def checkWorkers (workers : String) (nodes : Option String) (path : FieldPath) :
    List FieldError :=
  if workers = "" then
    [.required path "must specify the network range for the worker nodes"]
  else
    match Net.Cidr.parse workers with
    | .error e => [.invalid path (.str workers) ("invalid CIDR: " ++ e.message)]
    | .ok cidr =>
      errorIf (!cidr.isCanonical)
        (.invalid path (.str workers) "must be a canonical CIDR without host bits set")
      ++ match nodes.map Net.Cidr.parse with
        | some (.ok nodes) =>
          errorIf (!nodes.contains cidr)
            (.invalid path (.str workers)
              ("must be a subset of the shoot's nodes network " ++ nodes.text))
        | _ => []

/-- Checks an infrastructure on its own. -/
def check (c : InfrastructureConfig) (nodes : Option String) (path : FieldPath) :
    List FieldError :=
  let networksPath := path.child "networks"
  let (workers, field) := c.networks.effectiveWorkers
  c.checkFloatingPool path ++ checkIds c.networks networksPath
    ++ checkWorkers workers nodes (networksPath.child field)

/-- Checks a change: networks stay as they are. -/
def checkUpdate (old c : InfrastructureConfig) (path : FieldPath) : List FieldError :=
  errorIf (old.networks ≠ c.networks)
    (.invalid (path.child "networks") (encode c.networks) "field is immutable")

/-- Checks that the cloud profile offers the floating pool, unless it is the old one. -/
def checkAgainstProfile (old : Option InfrastructureConfig) (c : InfrastructureConfig) (q : Query)
    (profile : CloudProfileConfig) (path : FieldPath) : List FieldError :=
  if old.any (·.floatingPoolName = c.floatingPoolName) then []
  else
    checkResolves profile.constraints.floatingPools q c.floatingPoolName
      (path.child "floatingPoolName")

end InfrastructureConfig

end OpenstackAdmission
