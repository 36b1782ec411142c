import OpenstackAdmission.Checks.LoadBalancer
import OpenstackAdmission.Config.ControlPlane
import OpenstackAdmission.Config.Infrastructure
import OpenstackAdmission.Rules.Resolve

/-!
# Control planes of shoots

A control plane names a provider of load balancers and lists classes, and may want shared file systems.
Against the cloud profile, the provider has to be offered in the region, and the classes have to be those
of the floating pool that the shoot uses. Only what is new or changed is checked there.

The operations `validate_control_plane_config`, `validate_load_balancer_provider_constraints` and
`validate_control_plane_config_against_cloud_profile` (specification, section 12.3).
-/

namespace OpenstackAdmission

/-- The shoot has a network for shared file systems. -/
def InfrastructureConfig.sharesNetwork (c : InfrastructureConfig) : Bool :=
  c.networks.shareNetwork.any ShareNetwork.enabled

/-- The error of a name that no rule admits. -/
def unresolved (path : FieldPath) (requested : String) (supported : List String) : FieldError :=
  .notSupported path (.str requested) supported

/-- The errors of a name that rules have to admit. -/
def checkResolves {ρ : Type} [ScopedRule ρ] (rules : List ρ) (q : Query) (requested : String)
    (path : FieldPath) : List FieldError :=
  match resolve rules q requested with
  | .ok _ => []
  | .error supported => [unresolved path requested supported]

namespace ControlPlaneConfig

/-- Checks a control plane on its own. -/
def check (c : ControlPlaneConfig) (infrastructure : InfrastructureConfig) (path : FieldPath) :
    List FieldError :=
  errorIf (c.loadBalancerProvider = "")
    (.required (path.child "loadBalancerProvider")
      "must provide the name of a load balancer provider")
  ++ LoadBalancerClass.checkAll c.loadBalancerClasses (path.child "loadBalancerClasses")
  ++ errorIf (c.wantsManila && !infrastructure.sharesNetwork)
    (.forbidden (((path.child "storage").child "csiManila").child "enabled")
      ("CSI Manila driver requires the share network to be enabled in the infrastructure " ++
        "config"))

/-- Checks that a provider is offered in a region, unless it is the old one. -/
def checkProvider (providers : List LoadBalancerProvider) (region name : String)
    (oldName : Option String) (path : FieldPath) : List FieldError :=
  if oldName = some name then [] else checkResolves providers ⟨region, none⟩ name path

/-- Checks that a floating pool has the classes, unless it has none at all. -/
def checkPoolClasses (classes : List LoadBalancerClass) (pool : FloatingPool)
    (path : FieldPath) : List FieldError :=
  if pool.loadBalancerClasses = [] then []
  else
    checkEach path classes fun path c =>
      errorIf (c ∉ pool.loadBalancerClasses)
        (.forbidden path ("load balancer class " ++ Text.quoted c.name
          ++ " is not allowed by floating pool " ++ Text.quoted pool.name))

/-- There are classes, and they are new or changed. -/
def classesToCompare (old : Option ControlPlaneConfig) (c : ControlPlaneConfig) : Bool :=
  old.all (·.loadBalancerClasses ≠ c.loadBalancerClasses) && c.loadBalancerClasses ≠ []

/-- Checks a control plane against a cloud profile. A floating pool that does not resolve is reported with
the infrastructure. -/
def checkAgainstProfile (old : Option ControlPlaneConfig) (c : ControlPlaneConfig) (q : Query)
    (floatingPoolName : String) (profile : CloudProfileConfig) (path : FieldPath) :
    List FieldError :=
  checkProvider profile.constraints.loadBalancerProviders q.region c.loadBalancerProvider
    (old.map ControlPlaneConfig.loadBalancerProvider) (path.child "loadBalancerProvider")
  ++ (if classesToCompare old c then
      match resolve profile.constraints.floatingPools q floatingPoolName with
      | .error _ => []
      | .ok pool =>
        checkPoolClasses c.loadBalancerClasses pool (path.child "loadBalancerClasses")
    else [])

end ControlPlaneConfig

end OpenstackAdmission
