import OpenstackAdmission.Proofs.Admission.LoadBalancerClasses
import OpenstackAdmission.Proofs.Checks.ShootPlaces

/-!
# Floating pools that are not offered

Load balancer classes are compared with those of the floating pool. Where the pool does not resolve there is nothing
to compare them with, and the check of the classes leaves it to the check of the infrastructure to say so. That check
looks at the pool only if its name is new or changed.

> `poolRefused_iff_of_uncompared`: classes that cannot be compared are accounted for by an error of the floating pool
exactly if the name of the pool is new or changed.

A shoot that keeps its pool after the profile has given it up may therefore take on any classes (`uncompared_poolGone`).

No other check reports the pool. Most of them stand at other fields, and what the check of an infrastructure on its own
finds is never that a value is not supported (`SupportedOnly`).
-/

namespace OpenstackAdmission

/-- The floating pool of a shoot is none of the supported ones. -/
def FieldError.RefusesPool (e : FieldError) : Prop :=
  e.path = infrastructurePath.child "floatingPoolName" ∧
    ∃ value supported, e.problem = .notSupported value supported

/-- A value is none of the supported ones. -/
def Problem.isUnsupported : Problem → Bool
  | .notSupported .. => true
  | _ => false

/-- Whatever is wrong, it is not that a value is not supported. -/
def SupportedOnly (errors : List FieldError) : Prop :=
  ∀ e ∈ errors, e.problem.isUnsupported = false

section SupportedOnly

variable {α : Type} {errors₁ errors₂ : List FieldError} {error : FieldError} {text : String}
  {path : FieldPath} {items : List α}

/-- No errors are no errors about support. -/
theorem supportedOnly_nil : SupportedOnly [] := by
  intro e he
  cases he

/-- One error of another kind is no error about support. -/
theorem supportedOnly_singleton (h : error.problem.isUnsupported = false) : SupportedOnly [error] :=
  List.forall_mem_singleton.mpr h

/-- Two checks one after the other report nothing about support, if neither does. -/
theorem supportedOnly_append (h₁ : SupportedOnly errors₁) (h₂ : SupportedOnly errors₂) :
    SupportedOnly (errors₁ ++ errors₂) :=
  List.forall_mem_append.mpr ⟨h₁, h₂⟩

/-- An error under a condition is none about support, if the error is of another kind; the condition does
not matter. -/
theorem supportedOnly_errorIf {condition : Bool} (h : error.problem.isUnsupported = false) :
    SupportedOnly (errorIf condition error) := by
  cases condition with
  | false => exact supportedOnly_nil
  | true => exact supportedOnly_singleton h

/-- The refusal of a pool says that the pool is not supported, so it is not among such errors. -/
theorem SupportedOnly.not_refusesPool (h : SupportedOnly errors₁) : ∀ e ∈ errors₁, ¬ e.RefusesPool := by
  rintro e he ⟨-, value, supported, hproblem⟩
  have hsupported := h e he
  rw [hproblem] at hsupported
  cases hsupported

/-- A check that is put together from others reports nothing about support, if none of its parts does. -/
theorem TextCheck.supportedOnly_all {checks : List TextCheck}
    (h : ∀ check ∈ checks, SupportedOnly (check text path)) : SupportedOnly (all checks text path) := by
  intro e he
  obtain ⟨check, hcheck, he⟩ := List.mem_flatMap.mp he
  exact h check hcheck e he

/-- The form and the length of a name have errors of their own kinds. -/
theorem TextCheck.supportedOnly_optionalResourceName :
    SupportedOnly (optionalResourceName text path) := by
  apply supportedOnly_all
  simp only [List.forall_mem_cons, List.not_mem_nil, false_implies, implies_true, and_true]
  exact ⟨supportedOnly_errorIf rfl, supportedOnly_errorIf rfl⟩

/-- A name that is required is checked for its form and its length, and for being there. -/
theorem TextCheck.supportedOnly_resourceName : SupportedOnly (resourceName text path) := by
  apply supportedOnly_all
  simp only [List.forall_mem_cons, List.not_mem_nil, false_implies, implies_true, and_true]
  exact ⟨supportedOnly_errorIf rfl, supportedOnly_errorIf rfl, supportedOnly_errorIf rfl⟩

/-- An ID that is no UUID is invalid, and nothing else is said of it. -/
theorem TextCheck.supportedOnly_resourceId : SupportedOnly (resourceId text path) := by
  apply supportedOnly_all
  simp only [List.forall_mem_cons, List.not_mem_nil, false_implies, implies_true, and_true]
  exact ⟨supportedOnly_errorIf rfl, supportedOnly_errorIf rfl⟩

end SupportedOnly

namespace InfrastructureConfig

variable {path : FieldPath}

/-- The names of the pool and its subnet are checked as texts, and the subnet may be forbidden beside a router. Whether a
profile has the pool is another check. -/
theorem supportedOnly_checkFloatingPool (c : InfrastructureConfig) :
    SupportedOnly (c.checkFloatingPool path) := by
  unfold checkFloatingPool
  refine supportedOnly_append TextCheck.supportedOnly_resourceName ?_
  cases c.floatingPoolSubnetName with
  | none => exact supportedOnly_nil
  | some name =>
    exact supportedOnly_append TextCheck.supportedOnly_optionalResourceName (supportedOnly_errorIf rfl)

/-- The IDs of networks are checked as texts, and for what they need beside them. -/
theorem supportedOnly_checkIds (n : Networks) : SupportedOnly (checkIds n path) := by
  unfold checkIds
  refine supportedOnly_append (supportedOnly_append ?router ?network) ?subnet
  case router =>
    cases n.router with
    | none => exact supportedOnly_nil
    | some router => exact TextCheck.supportedOnly_resourceId
  case network =>
    cases n.id with
    | none => exact supportedOnly_nil
    | some id => exact TextCheck.supportedOnly_resourceId
  case subnet =>
    cases n.subnetId with
    | none => exact supportedOnly_nil
    | some id => exact supportedOnly_append TextCheck.supportedOnly_resourceId (supportedOnly_errorIf rfl)

/-- The network of the workers is required, read and compared with that of the nodes; none of this is about
support. -/
theorem supportedOnly_checkWorkers (workers : String) (nodes : Option String) :
    SupportedOnly (checkWorkers workers nodes path) := by
  unfold checkWorkers
  split
  · exact supportedOnly_singleton rfl
  cases Net.Cidr.parse workers with
  | error e => exact supportedOnly_singleton rfl
  | ok cidr =>
    refine supportedOnly_append (supportedOnly_errorIf rfl) ?_
    split
    · exact supportedOnly_errorIf rfl
    · exact supportedOnly_nil

/-- An infrastructure on its own is not compared with what is supported. -/
theorem supportedOnly_check (c : InfrastructureConfig) (nodes : Option String) :
    SupportedOnly (c.check nodes path) :=
  supportedOnly_append (supportedOnly_append c.supportedOnly_checkFloatingPool
    (supportedOnly_checkIds c.networks)) (supportedOnly_checkWorkers _ nodes)

/-- A pool that does not resolve is refused exactly if its name is new or changed. -/
theorem exists_refusesPool_iff {c : InfrastructureConfig} {old : Option InfrastructureConfig} {q : Query}
    {profile : CloudProfileConfig}
    (hunresolved : ∀ pool, resolve profile.constraints.floatingPools q c.floatingPoolName ≠ .ok pool) :
    (∃ e ∈ checkAgainstProfile old c q profile infrastructurePath, e.RefusesPool) ↔ c.HasNewPool old := by
  rw [← any_samePool_eq_false_iff]
  unfold checkAgainstProfile
  cases old.any (·.floatingPoolName = c.floatingPoolName) with
  | true =>
    rw [if_pos rfl]
    exact iff_of_false (fun ⟨_, he, _⟩ => List.not_mem_nil he) nofun
  | false =>
    rw [if_neg Bool.false_ne_true]
    refine iff_of_true ?_ rfl
    unfold checkResolves
    cases hresolve : resolve profile.constraints.floatingPools q c.floatingPoolName with
    | ok pool => exact absurd hresolve (hunresolved pool)
    | error supported => exact ⟨_, List.mem_singleton_self _, rfl, _, _, rfl⟩

end InfrastructureConfig

/-- What stands elsewhere does not refuse the pool. -/
theorem StandUnder.not_refusesPool {root : FieldPath} {errors : List FieldError} (h : StandUnder root errors)
    (hroot : ¬ (infrastructurePath.child "floatingPoolName").Under root) : ∀ e ∈ errors, ¬ e.RefusesPool := by
  rintro e he ⟨hpath, -⟩
  exact hroot (hpath ▸ h e he)

/-! ## Shoots -/

section Appended

variable {errors₁ errors₂ : List FieldError}

/-- Of two reports, the first decides whether the pool is refused, if the second never refuses it. -/
theorem refusesPool_append_iff_left (h : ∀ e ∈ errors₂, ¬ e.RefusesPool) :
    (∃ e ∈ errors₁ ++ errors₂, e.RefusesPool) ↔ ∃ e ∈ errors₁, e.RefusesPool := by
  simp only [List.mem_append, or_and_right, exists_or]
  exact or_iff_left fun ⟨e, he, hrefuses⟩ => h e he hrefuses

/-- Of two reports, the second decides whether the pool is refused, if the first never refuses it. -/
theorem refusesPool_append_iff_right (h : ∀ e ∈ errors₁, ¬ e.RefusesPool) :
    (∃ e ∈ errors₁ ++ errors₂, e.RefusesPool) ↔ ∃ e ∈ errors₂, e.RefusesPool := by
  simp only [List.mem_append, or_and_right, exists_or]
  exact or_iff_right fun ⟨e, he, hrefuses⟩ => h e he hrefuses

end Appended

namespace Shoot

variable {shoot : Shoot} {old : Option Shoot} {lookup : Lookup} {c : ShootConfigs} {s : ShootSurroundings}

/-- There are classes, they are new or changed, and no floating pool is there to compare them with. -/
structure ClassesUncompared (shoot : Shoot) (c : ShootConfigs) (s : ShootSurroundings) : Prop where
  stated : c.controlPlane.loadBalancerClasses ≠ []
  changed : c.controlPlane.HasNewClasses c.oldControlPlane
  unresolved : ∀ pool, shoot.poolOf c s ≠ .ok pool

/-- Of all checks of a shoot only one refuses the pool. -/
theorem exists_refusesPool_iff_of_unresolved (h : ∀ pool, shoot.poolOf c s ≠ .ok pool) :
    (∃ e ∈ shoot.checkNetworking ++ shoot.checkConfigs old c s, e.RefusesPool) ↔
      c.infrastructure.HasNewPool c.oldInfrastructure := by
  unfold checkConfigs
  -- the sections of the report fall away from the outside to the inside, until the check against the profile is left
  refine (refusesPool_append_iff_right ?networking).trans <| (refusesPool_append_iff_left ?zones).trans <|
    (refusesPool_append_iff_left ?workers).trans <| (refusesPool_append_iff_left ?balancers).trans <|
    (refusesPool_append_iff_left ?controlPlane).trans <|
    (refusesPool_append_iff_right (supportedOnly_append
      (c.infrastructure.supportedOnly_check _) ?networksKept).not_refusesPool).trans <|
    InfrastructureConfig.exists_refusesPool_iff h
  case networking => exact (Networking.check_under _ _).not_refusesPool (by decide)
  case zones =>
    cases old with
    | none => exact fun _ he => absurd he List.not_mem_nil
    | some before => exact (Worker.checkUpdate_under _ _ workersPath).not_refusesPool (by decide)
  case workers => exact (Worker.checkAll_under _ _ _).not_refusesPool (by decide)
  case balancers => exact (ControlPlaneConfig.checkAgainstProfile_under _ _ _ _ _ _).not_refusesPool (by decide)
  case controlPlane => exact (ControlPlaneConfig.check_under _ _ _).not_refusesPool (by decide)
  case networksKept =>
    cases c.oldInfrastructure with
    | none => exact supportedOnly_nil
    | some before => exact supportedOnly_errorIf rfl

/-- **Classes that cannot be compared are accounted for if the name of the pool is new or changed,** and only then. -/
theorem poolRefused_iff_of_uncompared {reference : CloudProfileReference}
    (hprovider : shoot.spec.provider.providerType = openstackType) (hreads : shoot.ReadsAs old c)
    (hreference : shoot.spec.profileReference? = some reference)
    (hsurroundings : shoot.surroundings reference lookup = .ok s)
    (huncompared : shoot.ClassesUncompared c s) :
    ∃ errors, shoot.check old lookup = .ok errors ∧
      ((∃ e ∈ errors, e.RefusesPool) ↔ c.infrastructure.HasNewPool c.oldInfrastructure) := by
  refine ⟨shoot.checkNetworking ++ shoot.checkConfigs old c s, ?_,
    exists_refusesPool_iff_of_unresolved huncompared.unresolved⟩
  unfold check checkOpenstack
  rw [if_neg (not_not_intro hprovider), configs_eq_ok_iff.mpr hreads]
  simp only [hreference, hsurroundings, Except.map]

/-! The profile offers the public pool only, and a shoot wants a class on the internal one. -/

def publicOnly : CloudProfileConfig :=
  { poolsWithClasses with
    constraints :=
      { poolsWithClasses.constraints with floatingPools := [poolWithClass "fip-public" "public"] } }

def lookupPublicOnly : Lookup := .ofResources [.cloudProfile (profileWithConfig publicOnly)]

def aroundPublicOnly : ShootSurroundings := { profile := publicOnly, domain := none }

def configsOnInternal (oldInfrastructure : Option InfrastructureConfig)
    (oldControlPlane : Option ControlPlaneConfig) : ShootConfigs where
  infrastructure := infrastructureOn "fip-internal"
  controlPlane := controlPlaneWithClass
  oldInfrastructure := oldInfrastructure
  oldControlPlane := oldControlPlane

/-- The profile with the public pool only has none under the name of the internal one. -/
theorem poolOf_onInternal {oldInfrastructure : Option InfrastructureConfig}
    {oldControlPlane : Option ControlPlaneConfig} (pool : FloatingPool) :
    shootOnInternal.poolOf (configsOnInternal oldInfrastructure oldControlPlane) aroundPublicOnly ≠
      .ok pool := by
  have hrefused : shootOnInternal.poolOf (configsOnInternal oldInfrastructure oldControlPlane)
      aroundPublicOnly = .error ["fip-public"] := by
    rfl
  rw [hrefused]
  nofun

/-- A new shoot on the pool that is not offered has its classes uncompared, and the pool is refused. -/
theorem poolRefused_shootOnInternal :
    ∃ errors, shootOnInternal.check none lookupPublicOnly = .ok errors ∧ ∃ e ∈ errors, e.RefusesPool := by
  have hread : shootOnInternal.configs none = .ok (.ok (configsOnInternal none none)) := by
    rfl
  have hsurroundings : shootOnInternal.surroundings { kind := "CloudProfile", name := "openstack" }
      lookupPublicOnly = .ok aroundPublicOnly := by
    rfl
  have hclasses : controlPlaneWithClass.HasNewClasses none := by
    intro before hbefore
    cases hbefore
  have hpool : (infrastructureOn "fip-internal").HasNewPool none := by
    intro before hbefore
    cases hbefore
  have huncompared : shootOnInternal.ClassesUncompared (configsOnInternal none none) aroundPublicOnly :=
    ⟨List.cons_ne_nil _ _, hclasses, poolOf_onInternal⟩
  obtain ⟨errors, hcheck, hiff⟩ := poolRefused_iff_of_uncompared rfl (configs_eq_ok_iff.mp hread) rfl
    hsurroundings huncompared
  exact ⟨errors, hcheck, hiff.mpr hpool⟩

/-! Another one is there already, and takes on the class after the profile has given up its pool. -/

def controlPlaneWithoutClasses : ControlPlaneConfig := { controlPlaneWithClass with loadBalancerClasses := [] }

def shootWithoutClasses : Shoot :=
  { shootOnInternal with
    spec :=
      { shootOnInternal.spec with
        provider :=
          { shootOnInternal.spec.provider with
            controlPlaneConfig := some (encode controlPlaneWithoutClasses) } } }

/-- **A class that has never been compared with anything is admitted.** -/
theorem uncompared_poolGone :
    shootOnInternal.spec.provider.providerType = openstackType ∧
      shootOnInternal.ReadsAs (some shootWithoutClasses)
        (configsOnInternal (some (infrastructureOn "fip-internal")) (some controlPlaneWithoutClasses)) ∧
      shootOnInternal.spec.profileReference? = some { kind := "CloudProfile", name := "openstack" } ∧
      shootOnInternal.surroundings { kind := "CloudProfile", name := "openstack" } lookupPublicOnly =
        .ok aroundPublicOnly ∧
      shootOnInternal.ClassesUncompared
        (configsOnInternal (some (infrastructureOn "fip-internal")) (some controlPlaneWithoutClasses))
        aroundPublicOnly ∧
      shootOnInternal.check (some shootWithoutClasses) lookupPublicOnly = .ok [] ∧
      (Resource.shoot shootOnInternal).review (some (.shoot shootWithoutClasses)) lookupPublicOnly =
        .ok () := by
  have hread : shootOnInternal.configs (some shootWithoutClasses) =
      .ok (.ok (configsOnInternal (some (infrastructureOn "fip-internal"))
        (some controlPlaneWithoutClasses))) := by
    rfl
  refine ⟨rfl, configs_eq_ok_iff.mp hread, rfl, by rfl, ⟨List.cons_ne_nil _ _, ?_, poolOf_onInternal⟩,
    by rfl, by rfl⟩
  intro before hbefore
  obtain rfl := Option.some.inj hbefore
  exact (List.cons_ne_nil _ _).symm

end Shoot

end OpenstackAdmission
