import Mathlib.Data.List.Nodup
import OpenstackAdmission.Proofs.Admission.Immutability
import OpenstackAdmission.Proofs.Admission.LoadBalancerClasses

/-!
# Resources that replace themselves

An update is reviewed in another way than a new resource. Networks and zones are compared with the old ones, and
what has not changed is not compared with the profile again. A resource that replaces itself has changed nothing,
so one would not expect the review to find anything that it did not find before.

> `review_again_iff`: what is admitted as new is admitted in place of itself too, except for a shoot with a pool
that does not begin with the zones of the first pool of its name.

The exception exists because no check rules out pools of one name, and each of them is compared with the first
old one: an unchanged pool with another one. Without such twins there is no exception.
-/

namespace OpenstackAdmission

/-- Every pool begins with the zones of the first pool of its name. -/
def Shoot.TwinsExtendFirst (shoot : Shoot) : Prop :=
  ∀ worker ∈ shoot.spec.provider.workers, ∀ first,
    Worker.find? shoot.spec.provider.workers worker.name = some first →
      first.zones <+: worker.zones

/-- The resource is no shoot of the provider that is to stay, or its pools begin with these zones. -/
def Resource.TwinsExtendFirst (r : Resource) : Prop :=
  ∀ shoot, r = .shoot shoot → shoot.spec.provider.providerType = openstackType →
    shoot.metadata.isDeleting = false → shoot.TwinsExtendFirst

/-! ## What is not compared again -/

/-- The old pool is not looked up again. -/
theorem InfrastructureConfig.checkAgainstProfile_self (c : InfrastructureConfig) (q : Query)
    (profile : CloudProfileConfig) (path : FieldPath) :
    InfrastructureConfig.checkAgainstProfile (some c) c q profile path = [] := by
  unfold InfrastructureConfig.checkAgainstProfile
  exact if_pos (decide_eq_true rfl)

/-- Neither are the old provider and the old classes. -/
theorem ControlPlaneConfig.checkAgainstProfile_self (c : ControlPlaneConfig) (q : Query)
    (floatingPoolName : String) (profile : CloudProfileConfig) (path : FieldPath) :
    ControlPlaneConfig.checkAgainstProfile (some c) c q floatingPoolName profile path = [] := by
  rw [ControlPlaneConfig.checkAgainstProfile_eq_nil_iff]
  refine ⟨if_pos rfl, ?_⟩
  intro hnew
  exact absurd rfl (hnew c rfl)

/-! ## A shoot in place of itself -/

/-- The payloads of a shoot, read as its old ones as well. -/
def ShootConfigs.again (c : ShootConfigs) : ShootConfigs :=
  { c with
    oldInfrastructure := some c.infrastructure
    oldControlPlane := some c.controlPlane }

namespace Shoot

variable {shoot : Shoot} {lookup : Lookup} {c : ShootConfigs} {s : ShootSurroundings}

/-- A shoot that is submitted again reads its own payloads twice, once as those of the shoot before. -/
theorem ReadsAs.again (h : shoot.ReadsAs none c) : shoot.ReadsAs (some shoot) c.again :=
  { infrastructure := h.infrastructure
    controlPlane := h.controlPlane
    oldInfrastructure := h.infrastructure
    oldControlPlane := h.controlPlane }

/-- Where nothing was wrong, nothing but the zones can be wrong now. -/
theorem Faultless.again (h : shoot.Faultless none c s) (hzones : shoot.TwinsExtendFirst) :
    shoot.Faultless (some shoot) c.again s := by
  refine
    { infrastructure := h.infrastructure
      networksKept := ?networks
      poolOffered := InfrastructureConfig.checkAgainstProfile_self ..
      controlPlane := h.controlPlane
      balancersOffered := ControlPlaneConfig.checkAgainstProfile_self ..
      workers := h.workers
      zonesKept := ?zones }
  case networks =>
    intro before hbefore
    obtain rfl := Option.some.inj hbefore
    exact InfrastructureConfig.checkUpdate_eq_nil_iff.mpr rfl
  case zones =>
    intro before hbefore
    obtain rfl := Option.some.inj hbefore
    exact Worker.checkUpdate_eq_nil_iff.mpr hzones

/-- An accepted shoot is accepted again with the same payloads in the same surroundings, if the zones of its
twins allow it. -/
theorem Accepted.again (h : shoot.Accepted none lookup c s) (hzones : shoot.TwinsExtendFirst) :
    shoot.Accepted (some shoot) lookup c.again s :=
  { reads := h.reads.again
    found := h.found
    networking := h.networking
    faultless := h.faultless.again hzones }

/-- Conversely, a shoot that is accepted after itself has twins that extend the first pool of their name:
this is what the comparison of zones demands. -/
theorem Accepted.twinsExtendFirst (h : shoot.Accepted (some shoot) lookup c s) :
    shoot.TwinsExtendFirst :=
  Worker.checkUpdate_eq_nil_iff.mp (h.faultless.zonesKept shoot rfl)

/-- A shoot of the provider that is admitted as new is admitted again exactly if its twins allow it. -/
theorem review_self_iff (hprovider : shoot.spec.provider.providerType = openstackType)
    (hstays : shoot.metadata.isDeleting = false)
    (h : (Resource.shoot shoot).review none lookup = .ok ()) :
    (Resource.shoot shoot).review (some (.shoot shoot)) lookup = .ok () ↔
      shoot.TwinsExtendFirst := by
  have hagain : (Resource.shoot shoot).review (some (.shoot shoot)) lookup = .ok () ↔
      ∃ c s, shoot.Accepted (some shoot) lookup c s :=
    @review_shoot_eq_ok_iff shoot (some shoot) lookup hprovider hstays
  rw [hagain]
  constructor
  · intro h
    obtain ⟨c, s, haccepted⟩ := h
    exact haccepted.twinsExtendFirst
  · intro hzones
    obtain ⟨c, s, haccepted⟩ := (@review_shoot_eq_ok_iff shoot none lookup hprovider hstays).mp h
    exact ⟨c.again, s, haccepted.again hzones⟩

/-- Pools of different names have no twins. -/
theorem twinsExtendFirst_of_nodup (h : (shoot.spec.provider.workers.map Worker.name).Nodup) :
    shoot.TwinsExtendFirst := by
  intro worker hworker first hfirst
  obtain ⟨hmem, hname⟩ := Worker.mem_of_find? hfirst
  obtain rfl := List.inj_on_of_nodup_map h hmem hworker hname
  exact List.prefix_rfl

/-- Shoots of other providers are not looked at, whatever they replace. -/
theorem check_of_otherProvider (h : shoot.spec.provider.providerType ≠ openstackType)
    (old : Option Shoot) : shoot.check old lookup = .ok [] := if_pos h

end Shoot

/-! ## Any resource -/

namespace Resource

variable {r : Resource} {lookup : Lookup}

/-- What a check does not find with the resource in its own place, it does not find as an update. -/
theorem review_again_of_check (hcheck : r.check (some r) lookup = r.check none lookup)
    (h : r.review none lookup = .ok ()) : r.review (some r) lookup = .ok () := by
  obtain ⟨-, hnothing⟩ := review_eq_ok_iff.mp h
  rw [← hcheck] at hnothing
  exact review_eq_ok_iff.mpr ⟨r.mismatch?_self, hnothing⟩

/-- A resource of any kind that is admitted as new is admitted again, if it is no shoot of the provider or
its twins allow it. -/
theorem review_again_of_twinsExtendFirst (h : r.review none lookup = .ok ())
    (hzones : r.TwinsExtendFirst) : r.review (some r) lookup = .ok () := by
  -- only the review of a shoot of the provider that stays looks at what is replaced
  cases hshoot : r.shoot? with
  | none => exact review_again_of_check (check_of_shoot?_eq_none hshoot _) h
  | some shoot =>
    obtain rfl := eq_shoot_of_shoot? hshoot
    by_cases hprovider : shoot.spec.provider.providerType = openstackType
    · cases hstays : shoot.metadata.isDeleting with
      | true => exact review_eq_ok_iff.mpr ⟨mismatch?_self _, .inl hstays⟩
      | false =>
        exact (Shoot.review_self_iff hprovider hstays h).mpr (hzones shoot rfl hprovider hstays)
    · apply review_again_of_check _ h
      show shoot.check (some shoot) lookup = shoot.check none lookup
      rw [Shoot.check_of_otherProvider hprovider, Shoot.check_of_otherProvider hprovider]

/-- **When an unchanged resource is admitted again.** -/
theorem review_again_iff (h : r.review none lookup = .ok ()) :
    (r.review (some r) lookup = .ok () ↔ r.TwinsExtendFirst) ∧
      ((∀ shoot, r = .shoot shoot → (shoot.spec.provider.workers.map Worker.name).Nodup) →
        r.review (some r) lookup = .ok ()) := by
  refine ⟨⟨?again, review_again_of_twinsExtendFirst h⟩, ?distinct⟩
  case again =>
    intro hagain shoot hshoot hprovider hstays
    subst hshoot
    exact (Shoot.review_self_iff hprovider hstays h).mp hagain
  case distinct =>
    intro hnames
    apply review_again_of_twinsExtendFirst h
    intro shoot hshoot _ _
    exact Shoot.twinsExtendFirst_of_nodup (hnames shoot hshoot)

end Resource

/-! A shoot with two pools of one name, the second of which has more zones; and one where the second has another
zone than the first. -/

def shootWithLongerTwin : Shoot :=
  shootOnPool "fip-internal" [workerIn "pool" ["eu-1a"], workerIn "pool" ["eu-1a", "eu-1b"]]

def shootWithOtherTwin : Shoot :=
  shootOnPool "fip-internal" [workerIn "pool" ["eu-1a"], workerIn "pool" ["eu-1b"]]

/-- The second twin begins with the zones of the first, so that the comparison with the first finds nothing.
-/
theorem review_again_shootWithLongerTwin :
    (Resource.shoot shootWithLongerTwin).review none lookupPoolsWithClasses = .ok () ∧
      (Resource.shoot shootWithLongerTwin).review (some (.shoot shootWithLongerTwin))
          lookupPoolsWithClasses = .ok () := by
  have hnew : (Resource.shoot shootWithLongerTwin).review none lookupPoolsWithClasses = .ok () := rfl
  refine ⟨hnew, (Resource.review_again_iff hnew).1.mpr ?_⟩
  intro shoot hshoot _ _
  obtain rfl := Resource.shoot.inj hshoot
  have hzones : Worker.checkUpdate shootWithLongerTwin.spec.provider.workers
      shootWithLongerTwin.spec.provider.workers workersPath = [] := rfl
  exact Worker.checkUpdate_eq_nil_iff.mp hzones

/-- The second pool is found to have lost the zone of the first, which it never had. -/
theorem not_review_again_shootWithOtherTwin :
    (Resource.shoot shootWithOtherTwin).review none lookupPoolsWithClasses = .ok () ∧
      (Resource.shoot shootWithOtherTwin).review (some (.shoot shootWithOtherTwin))
          lookupPoolsWithClasses =
        .error (.invalid .shoot "garden-dev/dev"
          [.invalid ((workersPath.index 1).child "zones") (.ofStrings ["eu-1b"])
            "field is immutable"]) :=
  ⟨rfl, rfl⟩

end OpenstackAdmission
