import OpenstackAdmission.Proofs.Admission.Shoot

/-!
# Load balancer classes and floating pools

The classes of a control plane have to be classes of the floating pool of the infrastructure, which is stated in
another payload. The pool is looked up if its name is new or changed, the classes are compared if they are new or
changed, and neither check knows what has changed in the other payload.

> `classesFit_of_review`: the classes of an admitted shoot fit its pool if they are new or changed, and its pool
is one of the profile if its name is new or changed.

That is not all: an update of the name alone takes the classes to a pool that need not have them
(`misfit_poolChanged`), although the same shoot is not admitted as a new one.
-/

namespace OpenstackAdmission

/-- The pool has these classes, or it has none at all and restricts nothing. -/
def FloatingPool.Takes (pool : FloatingPool) (classes : List LoadBalancerClass) : Prop :=
  pool.loadBalancerClasses ≠ [] → ∀ c ∈ classes, c ∈ pool.loadBalancerClasses

namespace ControlPlaneConfig

/-- The classes are not those of the old control plane. -/
def HasNewClasses (c : ControlPlaneConfig) (old : Option ControlPlaneConfig) : Prop :=
  ∀ before, old = some before → before.loadBalancerClasses ≠ c.loadBalancerClasses

variable {c : ControlPlaneConfig} {old : Option ControlPlaneConfig} {q : Query}
  {floatingPoolName : String} {profile : CloudProfileConfig} {path : FieldPath}

/-- Classes fit a pool exactly if the pool has none of its own, or has every one of them. -/
theorem checkPoolClasses_eq_nil_iff {classes : List LoadBalancerClass} {pool : FloatingPool} :
    checkPoolClasses classes pool path = [] ↔ pool.Takes classes := by
  unfold checkPoolClasses FloatingPool.Takes
  by_cases hnone : pool.loadBalancerClasses = []
  · rw [if_pos hnone]
    exact iff_of_true rfl fun hsome => absurd hnone hsome
  · rw [if_neg hnone, forall_prop_of_true hnone]
    apply checkEach_eq_nil_iff_forall_mem
    intro i lbClass
    rw [errorIf_eq_nil_iff, decide_eq_false_iff_not, Classical.not_not]

/-- Classes are compared exactly if there are some and they are not those of before. A change of the pool
alone is no reason. -/
theorem classesToCompare_iff :
    classesToCompare old c = true ↔ c.HasNewClasses old ∧ c.loadBalancerClasses ≠ [] := by
  unfold classesToCompare HasNewClasses
  rw [Bool.and_eq_true, decide_eq_true_eq]
  cases old <;> simp

/-- Against a profile nothing is wrong exactly if the provider is offered, and new classes fit the pool of the
name. -/
theorem checkAgainstProfile_eq_nil_iff :
    checkAgainstProfile old c q floatingPoolName profile path = [] ↔
      checkProvider profile.constraints.loadBalancerProviders q.region c.loadBalancerProvider
          (old.map ControlPlaneConfig.loadBalancerProvider) (path.child "loadBalancerProvider") = [] ∧
        (c.HasNewClasses old → ∀ pool,
          resolve profile.constraints.floatingPools q floatingPoolName = .ok pool →
            pool.Takes c.loadBalancerClasses) := by
  unfold checkAgainstProfile
  rw [List.append_eq_nil_iff]
  apply and_congr_right
  intro _
  by_cases hcompare : classesToCompare old c = true
  · have hnew := (classesToCompare_iff.mp hcompare).1
    rw [if_pos hcompare]
    cases resolve profile.constraints.floatingPools q floatingPoolName with
    | error supported => simp
    | ok pool => simp [hnew, checkPoolClasses_eq_nil_iff]
  · rw [if_neg hcompare]
    refine iff_of_true rfl ?_
    intro hnew pool _ _ lbClass hmem
    -- there are new classes, so they would have been compared
    exact absurd (classesToCompare_iff.mpr ⟨hnew, List.ne_nil_of_mem hmem⟩) hcompare

end ControlPlaneConfig

/-- A name that is not refused is resolved. -/
theorem checkResolves_eq_nil_iff {ρ : Type} [ScopedRule ρ] {rules : List ρ} {q : Query}
    {requested : String} {path : FieldPath} :
    checkResolves rules q requested path = [] ↔ ∃ rule, resolve rules q requested = .ok rule := by
  unfold checkResolves
  cases resolve rules q requested <;> simp

namespace InfrastructureConfig

/-- The floating pool is not that of the old infrastructure. -/
def HasNewPool (c : InfrastructureConfig) (old : Option InfrastructureConfig) : Prop :=
  ∀ before, old = some before → before.floatingPoolName ≠ c.floatingPoolName

/-- The test whether the pool has stayed, read the other way round: it fails exactly for a pool that is new
or another one. -/
theorem any_samePool_eq_false_iff {c : InfrastructureConfig} {old : Option InfrastructureConfig} :
    old.any (·.floatingPoolName = c.floatingPoolName) = false ↔ c.HasNewPool old := by
  unfold HasNewPool
  cases old <;> simp

/-- Where nothing is found, a new pool is one of the profile. -/
theorem exists_pool_of_checkAgainstProfile {c : InfrastructureConfig}
    {old : Option InfrastructureConfig} {q : Query} {profile : CloudProfileConfig} {path : FieldPath}
    (h : checkAgainstProfile old c q profile path = []) (hnew : c.HasNewPool old) :
    ∃ pool, resolve profile.constraints.floatingPools q c.floatingPoolName = .ok pool := by
  unfold checkAgainstProfile at h
  rw [any_samePool_eq_false_iff.mpr hnew, if_neg Bool.false_ne_true] at h
  exact checkResolves_eq_nil_iff.mp h

end InfrastructureConfig

namespace Shoot

/-- The floating pool that a name stands for, where the shoot is. -/
def poolOf (shoot : Shoot) (c : ShootConfigs) (s : ShootSurroundings) :
    Except (List String) FloatingPool :=
  resolve s.profile.constraints.floatingPools ⟨shoot.spec.region, s.domain⟩
    c.infrastructure.floatingPoolName

/-- The classes of the control plane are classes of the floating pool in use, if that has any. -/
def ClassesFit (shoot : Shoot) (c : ShootConfigs) (s : ShootSurroundings) : Prop :=
  ∀ pool, shoot.poolOf c s = .ok pool → pool.Takes c.controlPlane.loadBalancerClasses

variable {shoot : Shoot} {old : Option Shoot} {lookup : Lookup}

/-- **Classes that are new or changed fit the pool.** -/
theorem classesFit_of_review (hprovider : shoot.spec.provider.providerType = openstackType)
    (hstays : shoot.metadata.isDeleting = false)
    (h : (Resource.shoot shoot).review (old.map .shoot) lookup = .ok ()) :
    ∃ c s, shoot.Accepted old lookup c s ∧
      (c.controlPlane.HasNewClasses c.oldControlPlane → shoot.ClassesFit c s) ∧
      (c.infrastructure.HasNewPool c.oldInfrastructure → ∃ pool, shoot.poolOf c s = .ok pool) := by
  obtain ⟨c, s, haccepted⟩ := (review_shoot_eq_ok_iff hprovider hstays).mp h
  refine ⟨c, s, haccepted, ?_, ?_⟩
  · intro hnew pool hpool
    obtain ⟨-, htakes⟩ :=
      ControlPlaneConfig.checkAgainstProfile_eq_nil_iff.mp haccepted.faultless.balancersOffered
    exact htakes hnew pool hpool
  · intro hnew
    exact InfrastructureConfig.exists_pool_of_checkAgainstProfile haccepted.faultless.poolOffered hnew

/-- The shoot with the class of the internal pool is admitted on that pool, and its class fits there. -/
theorem classesFit_shootOnInternal :
    shootOnInternal.spec.provider.providerType = openstackType ∧
      shootOnInternal.metadata.isDeleting = false ∧
      (Resource.shoot shootOnInternal).review none lookupPoolsWithClasses = .ok () ∧
      ∃ c s, shootOnInternal.Accepted none lookupPoolsWithClasses c s ∧
        shootOnInternal.ClassesFit c s ∧ ∃ pool, shootOnInternal.poolOf c s = .ok pool := by
  have hreview : (Resource.shoot shootOnInternal).review ((none : Option Shoot).map .shoot)
      lookupPoolsWithClasses = .ok () := by
    rfl
  obtain ⟨c, s, haccepted, hclasses, hpool⟩ := classesFit_of_review rfl rfl hreview
  have hnoControlPlane : c.oldControlPlane = none := haccepted.reads.oldControlPlane.unique .none
  have hnoInfrastructure : c.oldInfrastructure = none :=
    haccepted.reads.oldInfrastructure.unique .none
  refine ⟨rfl, rfl, hreview, c, s, haccepted, hclasses ?_, hpool ?_⟩
  · intro before hbefore
    rw [hnoControlPlane] at hbefore
    cases hbefore
  · intro before hbefore
    rw [hnoInfrastructure] at hbefore
    cases hbefore

/-! An update moves a shoot to a pool that lacks its class. -/

def shootOnPublic : Shoot := shootOnPool "fip-public" [workerIn "pool" ["eu-1a"]]

def configsOnPublic : ShootConfigs where
  infrastructure := infrastructureOn "fip-public"
  controlPlane := controlPlaneWithClass
  oldInfrastructure := some (infrastructureOn "fip-internal")
  oldControlPlane := some controlPlaneWithClass

def aroundPools : ShootSurroundings := { profile := poolsWithClasses, domain := none }

/-- The same shoot is not admitted as a new one. -/
theorem misfit_poolChanged :
    (Resource.shoot shootOnPublic).review (some (.shoot shootOnInternal)) lookupPoolsWithClasses =
        .ok () ∧
      (Resource.shoot shootOnPublic).review none lookupPoolsWithClasses ≠ .ok () ∧
      shootOnPublic.Accepted (some shootOnInternal) lookupPoolsWithClasses configsOnPublic
        aroundPools ∧
      configsOnPublic.infrastructure.HasNewPool configsOnPublic.oldInfrastructure ∧
      ¬ shootOnPublic.ClassesFit configsOnPublic aroundPools := by
  have hread : shootOnPublic.configs (some shootOnInternal) = .ok (.ok configsOnPublic) := by
    rfl
  have hchecked : shootOnPublic.checkConfigs (some shootOnInternal) configsOnPublic aroundPools =
      [] := by
    rfl
  refine ⟨by rfl, ?created, ?accepted, ?changed, ?misfit⟩
  case created =>
    have hrefused : ((Resource.shoot shootOnPublic).review none
        lookupPoolsWithClasses).toOption.isSome = false := by
      rfl
    intro h
    rw [h] at hrefused
    cases hrefused
  case accepted =>
    exact
      { reads := configs_eq_ok_iff.mp hread
        found := ⟨{ kind := "CloudProfile", name := "openstack" }, by rfl, by rfl⟩
        networking := by rfl
        faultless := checkConfigs_eq_nil_iff.mp hchecked }
  case changed =>
    intro before hbefore
    obtain rfl := Option.some.inj hbefore
    show "fip-internal" ≠ "fip-public"
    decide
  case misfit =>
    intro hfit
    have hpool : shootOnPublic.poolOf configsOnPublic aroundPools =
        .ok (poolWithClass "fip-public" "public") := by
      rfl
    have hclass : classNamed "internal" ∈ [classNamed "public"] :=
      hfit _ hpool (List.cons_ne_nil _ _) _ (.head _)
    revert hclass
    decide

end Shoot

end OpenstackAdmission
