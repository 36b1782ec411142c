import OpenstackAdmission.Proofs.Admission.Shoot
import OpenstackAdmission.Proofs.Codec.Alike

/-!
# Running shoots and the constraints of their profile

A cloud profile may drop a floating pool or a provider of load balancers while shoots use it. Such a shoot can
still be changed, as long as the change does not touch what it has chosen.

> `review_eq_of_keepChoices`: a change that keeps the choices of a shoot has the same outcome whatever
constraints its profile states, with all errors that it has for other reasons.

Profiles that are the same elsewhere are read alike, with the same error or with configurations that are the same
elsewhere (`CloudProfileConfig.alike_read`), and everything that a shoot does with its profile goes on alike. Only
the checks of the choices look at the constraints, and they are skipped for choices that were made before.
-/

namespace OpenstackAdmission

/-! ## The same outside of the constraints -/

/-- Two configurations differ in their constraints at most. -/
def CloudProfileConfig.SameElsewhere (c c' : CloudProfileConfig) : Prop :=
  c' = { c with constraints := c'.constraints }

/-- The constraints of an object can be read, if there are any. -/
def ReadableConstraints (entries : List (String × Json)) : Prop :=
  ∀ json, Entries.find? "constraints" entries = some json → ∃ k : Constraints, decode json = .ok k

/-- Two payloads differ at most in constraints that can be read. -/
inductive Json.SameElsewhere : Json → Json → Prop where
  | same (payload : Json) : SameElsewhere payload payload
  | objects {entries entries' : List (String × Json)}
    (hothers : ∀ name, name ≠ "constraints" →
      Entries.find? name entries = Entries.find? name entries')
    (hreadable : ReadableConstraints entries) (hreadable' : ReadableConstraints entries') :
    SameElsewhere (.obj entries) (.obj entries')

/-- Two profiles differ in the constraints of their payloads at most. -/
structure CloudProfile.SameElsewhere (profile profile' : CloudProfile) : Prop where
  metadata : profile.metadata = profile'.metadata
  providerType : profile.spec.providerType = profile'.spec.providerType
  machineImages : profile.spec.machineImages = profile'.spec.machineImages
  machineCapabilities : profile.spec.machineCapabilities = profile'.spec.machineCapabilities
  providerConfig :
    Option.Rel Json.SameElsewhere profile.spec.providerConfig profile'.spec.providerConfig

/-- Two lookups find the same objects, up to the constraints of cloud profiles. -/
structure Lookup.SameElsewhere (lookup lookup' : Lookup) : Prop where
  cloudProfile : ∀ name,
    Option.Rel CloudProfile.SameElsewhere (lookup.cloudProfile name) (lookup'.cloudProfile name)
  namespacedCloudProfile : lookup.namespacedCloudProfile = lookup'.namespacedCloudProfile
  secret : lookup.secret = lookup'.secret
  secretBinding : lookup.secretBinding = lookup'.secretBinding
  credentialsBinding : lookup.credentialsBinding = lookup'.credentialsBinding

/-- A profile differs from itself nowhere; this is needed of all other profiles that a lookup finds. -/
theorem CloudProfile.SameElsewhere.refl (profile : CloudProfile) :
    profile.SameElsewhere profile := by
  refine ⟨rfl, rfl, rfl, rfl, ?_⟩
  cases profile.spec.providerConfig with
  | none => exact .none
  | some payload => exact .some (.same payload)

/-- Among resources, one profile may have changed its constraints. -/
theorem Lookup.sameElsewhere_ofResources {profile profile' : CloudProfile}
    (h : profile.SameElsewhere profile') (before after : List Resource) :
    (ofResources (before ++ .cloudProfile profile :: after)).SameElsewhere
      (ofResources (before ++ .cloudProfile profile' :: after)) := by
  constructor
  case cloudProfile =>
    intro name
    have hself (found : Option CloudProfile) :
        Option.Rel CloudProfile.SameElsewhere found found := by
      cases found with
      | none => exact .none
      | some found => exact .some (.refl found)
    show Option.Rel CloudProfile.SameElsewhere
      (((before ++ .cloudProfile profile :: after).filterMap Resource.cloudProfile?).find?
        (·.metadata.hasName name))
      (((before ++ .cloudProfile profile' :: after).filterMap Resource.cloudProfile?).find?
        (·.metadata.hasName name))
    -- the changed profile is found only if none in front of it has the name, and it has the name it
    -- had
    rw [List.filterMap_append, List.filterMap_append, List.find?_append, List.find?_append]
    cases (before.filterMap Resource.cloudProfile?).find? (·.metadata.hasName name) with
    | some found => exact hself _
    | none =>
      show Option.Rel CloudProfile.SameElsewhere
        ((profile :: after.filterMap Resource.cloudProfile?).find? (·.metadata.hasName name))
        ((profile' :: after.filterMap Resource.cloudProfile?).find? (·.metadata.hasName name))
      rw [List.find?_cons, List.find?_cons, h.metadata]
      cases profile'.metadata.hasName name with
      | true => exact .some h
      | false => exact hself _
  all_goals
    unfold ofResources
    simp only [List.filterMap_append]
    rfl

/-! ## Reading profiles -/

/-- Constraints that can be read are read without fault, wherever the field stands in its record. Without
the field there are the default ones, which are empty. -/
theorem exists_read_constraints {entries : List (String × Json)} (h : ReadableConstraints entries)
    (place : Nat) : ∃ k : Constraints,
      (Fields.defaulted "constraints" {}).read (.named entries) place = .ok k := by
  unfold Fields.defaulted Fields.field Fields.decodeFieldValue Layout.find?
  dsimp only
  cases hfind : Entries.find? "constraints" entries with
  | none => exact ⟨{}, rfl⟩
  | some json =>
    obtain ⟨k, hk⟩ := h json hfind
    exact ⟨k, by simp only [hk]⟩

namespace CloudProfileConfig

variable {entries entries' : List (String × Json)}

/-- Objects that are the same elsewhere are read as configurations that are the same elsewhere. -/
theorem alike_read
    (hothers : ∀ name, name ≠ "constraints" →
      Entries.find? name entries = Entries.find? name entries')
    (hreadable : ReadableConstraints entries) (hreadable' : ReadableConstraints entries') :
    EndAlike SameElsewhere (fields.read (.named entries) 0) (fields.read (.named entries') 0) := by
  have hmeta : EndAlike Eq ((Fields.afterOthers TypeMeta.fields).read (.named entries) 0)
      ((Fields.afterOthers TypeMeta.fields).read (.named entries') 0) := by
    apply Fields.alike_afterOthers
    refine Fields.alike_seq_field (Fields.alike_map (Fields.alike_field ?_) ?_) ?_
    · exact hothers _ (by decide)
    · rintro version _ rfl kind
      rfl
    · exact hothers _ (by decide)
  have hconstraints (place : Nat) : EndAlike (fun _ _ : Constraints => True)
      ((Fields.defaulted "constraints" {}).read (.named entries) place)
      ((Fields.defaulted "constraints" {}).read (.named entries') place) := by
    obtain ⟨k, hk⟩ := exists_read_constraints hreadable place
    obtain ⟨k', hk'⟩ := exists_read_constraints hreadable' place
    rw [hk, hk']
    exact .ok trivial
  unfold fields
  -- the fields behind the constraints, from the last to the first
  iterate 16 refine Fields.alike_seq_field ?_ (hothers _ (by decide))
  refine Fields.alike_seq (Fields.alike_map hmeta ?_) (hconstraints _)
  rintro m _ rfl k k' -
  intros
  rfl

/-- Payloads that are the same elsewhere are decoded alike: equal ones to one result, and objects by the
field-by-field comparison above. -/
theorem alike_decode {payload payload' : Json} (h : payload.SameElsewhere payload') :
    EndAlike SameElsewhere (decode payload) (decode payload') := by
  cases h with
  | same => exact (EndAlike.refl _).mono fun c c' hc => hc ▸ rfl
  | objects hothers hreadable hreadable' => exact (alike_read hothers hreadable hreadable').mapError

end CloudProfileConfig

/-- Wrapping the cause of a fault into an error of the object keeps results alike, as the field and the
object are the same on both sides. -/
theorem alike_decodePayload {α : Type} [Codec α] {R : α → α → Prop} {payload payload' : Json}
    {field object : String} (h : EndAlike R (decode payload) (decode payload')) :
    EndAlike R (decodePayload payload field object) (decodePayload payload' field object) := by
  unfold decodePayload
  generalize (decode payload : Except DecodeError α) = x,
    (decode payload' : Except DecodeError α) = x' at h ⊢
  cases h with
  | ok h => exact .ok h
  | error cause => exact .error _

/-- A profile is missing in both lookups under the same name, or it is there in both and the same elsewhere.
-/
theorem Lookup.SameElsewhere.alike_demandProfile {lookup lookup' : Lookup}
    (h : lookup.SameElsewhere lookup') (name : String) :
    EndAlike CloudProfile.SameElsewhere (lookup.demandProfile name)
      (lookup'.demandProfile name) := by
  have hfound := h.cloudProfile name
  unfold demandProfile
  generalize lookup.cloudProfile name = found, lookup'.cloudProfile name = found' at hfound ⊢
  cases hfound with
  | none => exact .error _
  | some hsame => exact .ok hsame

/-! ## What a shoot does with its profile -/

/-- Surroundings that differ in the constraints of the profile at most. -/
structure ShootSurroundings.SameElsewhere (s s' : ShootSurroundings) : Prop where
  profile : s.profile.SameElsewhere s'.profile
  domain : s.domain = s'.domain

/-- The floating pool, the provider of load balancers and their classes are those of the shoot that is replaced. -/
structure ShootConfigs.KeepChoices (c : ShootConfigs) : Prop where
  floatingPoolName :
    c.oldInfrastructure.map (·.floatingPoolName) = some c.infrastructure.floatingPoolName
  loadBalancerProvider :
    c.oldControlPlane.map (·.loadBalancerProvider) = some c.controlPlane.loadBalancerProvider
  loadBalancerClasses :
    c.oldControlPlane.map (·.loadBalancerClasses) = some c.controlPlane.loadBalancerClasses

/-- A floating pool that stays is not looked up. -/
theorem InfrastructureConfig.checkAgainstProfile_of_kept {old : Option InfrastructureConfig}
    {c : InfrastructureConfig} (h : old.map (·.floatingPoolName) = some c.floatingPoolName)
    (q : Query) (profile : CloudProfileConfig) (path : FieldPath) :
    checkAgainstProfile old c q profile path = [] := by
  obtain ⟨before, rfl, hbefore⟩ := Option.map_eq_some_iff.mp h
  exact if_pos (decide_eq_true hbefore)

/-- A provider and classes that stay are not looked up. -/
theorem ControlPlaneConfig.checkAgainstProfile_of_kept {old : Option ControlPlaneConfig}
    {c : ControlPlaneConfig}
    (hprovider : old.map (·.loadBalancerProvider) = some c.loadBalancerProvider)
    (hclasses : old.map (·.loadBalancerClasses) = some c.loadBalancerClasses) (q : Query)
    (floatingPoolName : String) (profile : CloudProfileConfig) (path : FieldPath) :
    checkAgainstProfile old c q floatingPoolName profile path = [] := by
  have hsame : classesToCompare old c = false := by
    obtain ⟨before, rfl, hbefore⟩ := Option.map_eq_some_iff.mp hclasses
    unfold classesToCompare
    rw [Option.all_some, decide_eq_false (not_not_intro hbefore), Bool.false_and]
  unfold checkAgainstProfile checkProvider
  rw [if_pos hprovider, hsame]
  rfl

namespace Shoot

variable {shoot old : Shoot} {reference : CloudProfileReference} {lookup lookup' : Lookup}

/-- The configuration for a shoot is found by way of the namespaced profile, which is the same in both
lookups, and then read from profiles that are the same elsewhere. -/
theorem alike_profileConfig (h : lookup.SameElsewhere lookup') (space : String) :
    EndAlike CloudProfileConfig.SameElsewhere (profileConfig reference space lookup)
      (profileConfig reference space lookup') := by
  have hname : profileName reference space lookup = profileName reference space lookup' := by
    unfold profileName
    rw [h.namespacedCloudProfile]
  unfold profileConfig
  rw [hname]
  refine (EndAlike.refl _).bind ?_
  rintro name _ rfl
  refine (h.alike_demandProfile name).bind ?_
  intro profile profile' hsame
  have hpayload := hsame.providerConfig
  generalize profile.spec.providerConfig = payload, profile'.spec.providerConfig = payload'
    at hpayload ⊢
  cases hpayload with
  | none => exact .error _
  | some hpayload => exact alike_decodePayload (CloudProfileConfig.alike_decode hpayload)

/-- The surroundings of a shoot differ as its profile does; the domain comes from bindings and secrets,
which both lookups share. -/
theorem alike_surroundings (h : lookup.SameElsewhere lookup') :
    EndAlike ShootSurroundings.SameElsewhere (shoot.surroundings reference lookup)
      (shoot.surroundings reference lookup') := by
  have hdomain : shoot.domain lookup = shoot.domain lookup' := by
    unfold domain secretKey?
    rw [h.secret, h.secretBinding, h.credentialsBinding]
  unfold surroundings
  rw [hdomain]
  refine (alike_profileConfig h _).bind ?_
  intro profile profile' hprofile
  refine (EndAlike.refl _).bind ?_
  rintro domain _ rfl
  exact .ok ⟨hprofile, rfl⟩

/-- With its choices kept, a shoot has the same errors in both surroundings. -/
theorem checkConfigs_eq_of_keepChoices {c : ShootConfigs} {s s' : ShootSurroundings}
    (hkeep : c.KeepChoices) (h : s.SameElsewhere s') :
    shoot.checkConfigs (some old) c s = shoot.checkConfigs (some old) c s' := by
  have hworkers : Worker.checkAll shoot.spec.provider.workers s.profile workersPath =
      Worker.checkAll shoot.spec.provider.workers s'.profile workersPath := by
    rw [h.profile]
    rfl
  unfold checkConfigs
  dsimp only
  rw [InfrastructureConfig.checkAgainstProfile_of_kept hkeep.floatingPoolName,
    InfrastructureConfig.checkAgainstProfile_of_kept hkeep.floatingPoolName,
    ControlPlaneConfig.checkAgainstProfile_of_kept hkeep.loadBalancerProvider
      hkeep.loadBalancerClasses,
    ControlPlaneConfig.checkAgainstProfile_of_kept hkeep.loadBalancerProvider
      hkeep.loadBalancerClasses, hworkers]

/-- The whole check of a shoot that keeps its choices is equal under both lookups. It ends before it looks
at the profile, or it compares configurations that are the same elsewhere. -/
theorem checkOpenstack_eq_of_keepChoices
    (hkeep : ∀ c, shoot.ReadsAs (some old) c → c.KeepChoices) (h : lookup.SameElsewhere lookup') :
    shoot.checkOpenstack (some old) lookup = shoot.checkOpenstack (some old) lookup' := by
  unfold checkOpenstack
  -- a shoot that ends early has not looked at its profile
  cases hconfigs : shoot.configs (some old) with
  | error e => rfl
  | ok outcome =>
    cases outcome with
    | error missing => rfl
    | ok c =>
      cases shoot.spec.profileReference? with
      | none => rfl
      | some reference =>
        have hkept := hkeep c (configs_eq_ok_iff.mp hconfigs)
        refine ((alike_surroundings h).map ?_).eq
        intro s s' hs
        rw [checkConfigs_eq_of_keepChoices hkept hs]

/-- **Running shoots do not depend on the constraints of their profile.** -/
theorem review_eq_of_keepChoices (hkeep : ∀ c, shoot.ReadsAs (some old) c → c.KeepChoices)
    (h : lookup.SameElsewhere lookup') :
    (Resource.shoot shoot).review (some (.shoot old)) lookup =
      (Resource.shoot shoot).review (some (.shoot old)) lookup' := by
  have hcheck : (Resource.shoot shoot).check (some (.shoot old)) lookup =
      (Resource.shoot shoot).check (some (.shoot old)) lookup' := by
    show shoot.check (some old) lookup = shoot.check (some old) lookup'
    unfold check
    rw [checkOpenstack_eq_of_keepChoices hkeep h]
  unfold Resource.review
  rw [hcheck]

/-! A profile without its pools, and a shoot on one of them: once it gets one more pool of workers, and once the zones
of its pool change and the new one has none. -/

def lookupWithoutPools : Lookup := .ofResources [.cloudProfile (profileWithConfig {})]

def shootWithMoreWorkers : Shoot :=
  shootOnPool "fip-internal" [workerIn "pool" ["eu-1a"], workerIn "more" ["eu-1b"]]

def shootWithOtherZones : Shoot :=
  shootOnPool "fip-internal" [workerIn "pool" ["eu-1b"], workerIn "more" []]

/-- Whatever its workers are, a shoot that stays on the pool keeps its choices: the payloads are those of the shoot
before. -/
theorem keepChoices_shootOnPool {workers : List Worker} (c : ShootConfigs)
    (h : (shootOnPool "fip-internal" workers).ReadsAs (some shootOnInternal) c) : c.KeepChoices := by
  have hinfrastructure : Holds shootOnInternal.spec.provider.infrastructureConfig
      (some (infrastructureOn "fip-internal")) := .some rfl
  have hcontrolPlane : Holds shootOnInternal.spec.provider.controlPlaneConfig
      (some controlPlaneWithClass) := .some rfl
  have hi := Option.some.inj (h.infrastructure.unique hinfrastructure)
  have hc := Option.some.inj (h.controlPlane.unique hcontrolPlane)
  have hoi := h.oldInfrastructure.unique hinfrastructure
  have hoc := h.oldControlPlane.unique hcontrolPlane
  exact ⟨by rw [hoi, hi]; rfl, by rw [hoc, hc]; rfl, by rw [hoc, hc]; rfl⟩

/-- The two profiles of the example differ in what stands first in their payloads, and both can be read. -/
theorem sameElsewhere_profileWithoutPools :
    (profileWithConfig poolsWithClasses).SameElsewhere (profileWithConfig {}) := by
  refine ⟨rfl, rfl, rfl, rfl, .some (.objects ?_ ?_ ?_)⟩
  · intro name hname
    -- the constraints come first in both objects
    exact (if_neg hname).trans (if_neg hname).symm
  · intro json hjson
    obtain rfl := Option.some.inj hjson
    exact ⟨poolsWithClasses.constraints, rfl⟩
  · intro json hjson
    obtain rfl := Option.some.inj hjson
    exact ⟨{}, rfl⟩

/-- Without the pools, one change is still admitted, and the other one has the same two errors, none of which is about
the pools. -/
theorem review_shootWithMoreWorkers :
    (Resource.shoot shootWithMoreWorkers).review (some (.shoot shootOnInternal)) lookupWithoutPools = .ok () ∧
      (Resource.shoot shootWithOtherZones).review (some (.shoot shootOnInternal)) lookupWithoutPools =
        .error (.invalid .shoot "garden-dev/dev"
          [.required ((workersPath.index 1).child "zones") "at least one zone must be configured",
            .invalid ((workersPath.index 0).child "zones") (.ofStrings ["eu-1b"]) "field is immutable"]) := by
  have hlookups : lookupPoolsWithClasses.SameElsewhere lookupWithoutPools :=
    Lookup.sameElsewhere_ofResources sameElsewhere_profileWithoutPools [] []
  have hmore : (Resource.shoot shootWithMoreWorkers).review (some (.shoot shootOnInternal))
      lookupPoolsWithClasses = (Resource.shoot shootWithMoreWorkers).review _ lookupWithoutPools :=
    review_eq_of_keepChoices keepChoices_shootOnPool hlookups
  have hother : (Resource.shoot shootWithOtherZones).review (some (.shoot shootOnInternal))
      lookupPoolsWithClasses = (Resource.shoot shootWithOtherZones).review _ lookupWithoutPools :=
    review_eq_of_keepChoices keepChoices_shootOnPool hlookups
  exact ⟨hmore.symm.trans rfl, hother.symm.trans rfl⟩

end Shoot

end OpenstackAdmission
