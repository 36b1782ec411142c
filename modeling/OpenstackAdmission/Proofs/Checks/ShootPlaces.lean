import OpenstackAdmission.Checks.ControlPlane
import OpenstackAdmission.Checks.Networking
import OpenstackAdmission.Proofs.Checks.Offers
import OpenstackAdmission.Proofs.Checks.Worker

/-!
# Where the errors of a shoot stand

A shoot is checked in sections: its networks, its infrastructure, its control plane and its pools of workers. Each check
is given the path of its section and stays there, also where it looks at another one: the control plane is checked
beside the infrastructure and its floating pool, and finds fault with neither.
-/

namespace OpenstackAdmission

/-- A shoot without a network for its nodes has one error, at the field for that. -/
theorem Networking.check_under (networking : Option Networking) (path : FieldPath) :
    StandUnder path (Networking.check networking path) :=
  standUnder_errorIf ((FieldPath.under_refl path).child "nodes")

namespace ControlPlaneConfig

/-- The provider, the classes and the shared file systems are judged below the control plane. The
infrastructure is only read. -/
theorem check_under (c : ControlPlaneConfig) (infrastructure : InfrastructureConfig) (path : FieldPath) :
    StandUnder path (c.check infrastructure path) := by
  have hself := FieldPath.under_refl path
  unfold check
  refine standUnder_append (standUnder_append (standUnder_errorIf (hself.child "loadBalancerProvider")) ?_)
    (standUnder_errorIf (((hself.child "storage").child "csiManila").child "enabled"))
  exact LoadBalancerClass.checkAll_under _ (hself.child "loadBalancerClasses")

/-- What a profile does not offer is reported where it is asked for, so no place of the profile occurs here.
-/
theorem checkAgainstProfile_under (old : Option ControlPlaneConfig) (c : ControlPlaneConfig) (q : Query)
    (floatingPoolName : String) (profile : CloudProfileConfig) (path : FieldPath) :
    StandUnder path (checkAgainstProfile old c q floatingPoolName profile path) := by
  have hself := FieldPath.under_refl path
  unfold checkAgainstProfile
  refine standUnder_append ?provider ?classes
  case provider =>
    unfold checkProvider checkResolves
    split
    · exact standUnder_nil
    cases resolve profile.constraints.loadBalancerProviders ⟨q.region, none⟩ c.loadBalancerProvider with
    | ok provider => exact standUnder_nil
    | error supported => exact standUnder_singleton (hself.child "loadBalancerProvider")
  case classes =>
    split
    case isFalse => exact standUnder_nil
    cases resolve profile.constraints.floatingPools q floatingPoolName with
    | error supported => exact standUnder_nil
    | ok pool =>
      show StandUnder path (checkPoolClasses _ pool _)
      unfold checkPoolClasses
      split
      · exact standUnder_nil
      · exact standUnder_checkEach (hself.child "loadBalancerClasses") fun _ _ hpath =>
          standUnder_errorIf hpath

end ControlPlaneConfig

namespace Worker

/-- Every pool is judged below its index. -/
theorem checkAll_under (workers : List Worker) (profile : CloudProfileConfig) (path : FieldPath) :
    StandUnder path (checkAll workers profile path) :=
  standUnder_checkEach (FieldPath.under_refl path) fun path worker hpath =>
    (worker.check_under profile path).trans hpath

/-- A pool is compared with an old one, and what has changed is reported at the new one. -/
theorem checkUpdate_under (old workers : List Worker) (path : FieldPath) :
    StandUnder path (checkUpdate old workers path) := by
  refine standUnder_checkEach (FieldPath.under_refl path) fun path worker hpath => ?_
  cases find? old worker.name with
  | none => exact standUnder_nil
  | some before => exact standUnder_errorIf (hpath.child "zones")

end Worker

end OpenstackAdmission
