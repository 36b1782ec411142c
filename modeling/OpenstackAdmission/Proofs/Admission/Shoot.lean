import OpenstackAdmission.Proofs.Admission.Review

/-!
# What an admitted shoot has

The review of a shoot ends early in many places: at a kind that does not fit, at a deletion, at a payload that is
missing or cannot be read, at a profile or a secret that is not there. None of these ends admits a shoot of the
provider that is not on its way out.

> `review_shoot_eq_ok_iff`: such a shoot is admitted exactly if its payloads and those of the shoot that it
replaces can be read, what it refers to is found, and every check finds nothing.

What later theorems need of an admission are the fields of `Shoot.Accepted`.
-/

namespace OpenstackAdmission

/-- A payload holds a configuration, or there is neither. -/
def Holds {α : Type} [Codec α] (payload : Option Json) (config : Option α) : Prop :=
  Option.Rel (fun json a => decode json = .ok a) payload config

section Holds

variable {α : Type} [Codec α] {payload : Option Json} {a : α}

/-- A payload that holds a configuration is there, and decodes to it. -/
theorem holds_some_iff : Holds payload (some a) ↔ ∃ json, payload = some json ∧ decode json = .ok a := by
  constructor
  · intro h
    cases h with
    | some hdecode => exact ⟨_, rfl, hdecode⟩
  · rintro ⟨json, rfl, hdecode⟩
    exact .some hdecode

/-- A payload holds one configuration only. -/
theorem Holds.unique {config other : Option α} (h : Holds payload config)
    (hother : Holds payload other) : config = other := by
  cases h with
  | none =>
    cases hother
    rfl
  | some hdecode =>
    cases hother with
    | some hagain => exact congrArg some (Except.ok.inj (hdecode.symm.trans hagain))

/-- A payload is read exactly if it decodes; the names of its field and its object only matter for the
error. -/
theorem decodePayload_eq_ok_iff {json : Json} {field object : String} :
    decodePayload json field object = .ok a ↔ decode json = .ok a := by
  unfold decodePayload
  cases (decode json : Except DecodeError α) with
  | error e => simp only [reduceCtorEq]
  | ok a => simp only [Except.ok.injEq]

/-- A payload that is not read gives one kind of error, which names the field and the object that were
given. -/
theorem cause_of_decodePayload_eq_error {json : Json} {field object : String} {e : AdmissionError}
    (h : (decodePayload json field object : Except AdmissionError α) = .error e) :
    ∃ cause, e = .badPayload field object cause := by
  unfold decodePayload at h
  cases hdecode : (decode json : Except DecodeError α) with
  | error cause =>
    rw [hdecode] at h
    exact ⟨cause, (Except.error.inj h).symm⟩
  | ok a =>
    rw [hdecode] at h
    cases h

/-- What may be missing is read exactly if it is missing or holds what is read. -/
theorem decodeOptional_eq_ok_iff {decodeOne : Json → Except AdmissionError α} {config : Option α}
    (hdecode : ∀ json a, decodeOne json = .ok a ↔ decode json = .ok a) :
    Shoot.decodeOptional decodeOne payload = .ok config ↔ Holds payload config := by
  cases payload with
  | none =>
    constructor
    · intro h
      obtain rfl := Except.ok.inj h
      exact .none
    · intro h
      cases h
      rfl
  | some json =>
    unfold Shoot.decodeOptional
    rw [map_eq_ok_iff]
    constructor
    · rintro ⟨a, ha, rfl⟩
      exact .some ((hdecode json a).mp ha)
    · intro h
      cases h with
      | some ha => exact ⟨_, (hdecode json _).mpr ha, rfl⟩

end Holds

namespace Shoot

/-- The payloads of a shoot and of the shoot that it replaces hold these configurations. -/
structure ReadsAs (shoot : Shoot) (old : Option Shoot) (c : ShootConfigs) : Prop where
  infrastructure : Holds shoot.spec.provider.infrastructureConfig (some c.infrastructure)
  controlPlane : Holds shoot.spec.provider.controlPlaneConfig (some c.controlPlane)
  oldInfrastructure :
    Holds (old.bind (·.spec.provider.infrastructureConfig)) c.oldInfrastructure
  oldControlPlane : Holds (old.bind (·.spec.provider.controlPlaneConfig)) c.oldControlPlane

/-- Nothing is wrong with the payloads and the pools of a shoot. -/
structure Faultless (shoot : Shoot) (old : Option Shoot) (c : ShootConfigs)
    (s : ShootSurroundings) : Prop where
  infrastructure : c.infrastructure.check shoot.nodes? infrastructurePath = []
  networksKept : ∀ before, c.oldInfrastructure = some before →
    before.checkUpdate c.infrastructure infrastructurePath = []
  poolOffered : InfrastructureConfig.checkAgainstProfile c.oldInfrastructure c.infrastructure
    ⟨shoot.spec.region, s.domain⟩ s.profile infrastructurePath = []
  controlPlane : c.controlPlane.check c.infrastructure controlPlanePath = []
  balancersOffered : ControlPlaneConfig.checkAgainstProfile c.oldControlPlane c.controlPlane
    ⟨shoot.spec.region, s.domain⟩ c.infrastructure.floatingPoolName s.profile controlPlanePath = []
  workers : Worker.checkAll shoot.spec.provider.workers s.profile workersPath = []
  zonesKept : ∀ before, old = some before →
    Worker.checkUpdate before.spec.provider.workers shoot.spec.provider.workers workersPath = []

/-- A shoot is accepted with these payloads in these surroundings. -/
structure Accepted (shoot : Shoot) (old : Option Shoot) (lookup : Lookup) (c : ShootConfigs)
    (s : ShootSurroundings) : Prop where
  reads : shoot.ReadsAs old c
  found : ∃ reference, shoot.spec.profileReference? = some reference ∧
    shoot.surroundings reference lookup = .ok s
  networking : shoot.checkNetworking = []
  faultless : shoot.Faultless old c s

variable {shoot : Shoot} {old : Option Shoot} {lookup : Lookup} {c : ShootConfigs}
  {s : ShootSurroundings}

/-- The payload for the infrastructure is read exactly if it decodes. -/
theorem decodeInfrastructure_eq_ok_iff {json : Json} {infrastructure : InfrastructureConfig} :
    shoot.decodeInfrastructure json = .ok infrastructure ↔ decode json = .ok infrastructure :=
  decodePayload_eq_ok_iff

/-- The payload for the control plane is read exactly if it decodes. -/
theorem decodeControlPlane_eq_ok_iff {json : Json} {controlPlane : ControlPlaneConfig} :
    shoot.decodeControlPlane json = .ok controlPlane ↔ decode json = .ok controlPlane :=
  decodePayload_eq_ok_iff

/-- The payloads come through exactly if they are there and hold what comes through. -/
theorem configs_eq_ok_iff : shoot.configs old = .ok (.ok c) ↔ shoot.ReadsAs old c := by
  unfold configs
  -- both payloads of the shoot have to be there; those of the old state may be missing
  cases hinfrastructure : shoot.spec.provider.infrastructureConfig with
  | none =>
    constructor
    · intro h
      cases h
    · intro h
      obtain ⟨json, hjson, -⟩ := holds_some_iff.mp h.infrastructure
      rw [hinfrastructure] at hjson
      cases hjson
  | some infrastructureJson =>
    cases hcontrolPlane : shoot.spec.provider.controlPlaneConfig with
    | none =>
      constructor
      · intro h
        obtain ⟨_, -, hmissing⟩ := bind_eq_ok_iff.mp h
        cases hmissing
      · intro h
        obtain ⟨json, hjson, -⟩ := holds_some_iff.mp h.controlPlane
        rw [hcontrolPlane] at hjson
        cases hjson
    | some controlPlaneJson =>
      simp only [bind_eq_ok_iff, decodeInfrastructure_eq_ok_iff, decodeControlPlane_eq_ok_iff,
        decodeOptional_eq_ok_iff fun _ _ => decodeInfrastructure_eq_ok_iff,
        decodeOptional_eq_ok_iff fun _ _ => decodeControlPlane_eq_ok_iff]
      constructor
      · rintro ⟨infrastructure, hi, controlPlane, hc, oldInfrastructure, hoi, oldControlPlane, hoc, h⟩
        obtain rfl := Except.ok.inj (Except.ok.inj h)
        exact
          { infrastructure := hinfrastructure ▸ .some hi
            controlPlane := hcontrolPlane ▸ .some hc
            oldInfrastructure := hoi
            oldControlPlane := hoc }
      · intro h
        have hi := h.infrastructure
        have hc := h.controlPlane
        rw [hinfrastructure] at hi
        rw [hcontrolPlane] at hc
        cases hi with
        | some hi =>
          cases hc with
          | some hc =>
            exact ⟨_, hi, _, hc, _, h.oldInfrastructure, _, h.oldControlPlane, rfl⟩

/-- The checks of a shoot are seven, one after the other, and they find nothing exactly if the shoot is
faultless; each of them is a field of `Faultless`. -/
theorem checkConfigs_eq_nil_iff : shoot.checkConfigs old c s = [] ↔ shoot.Faultless old c s := by
  unfold checkConfigs
  simp only [List.append_eq_nil_iff]
  constructor
  · intro h
    obtain ⟨⟨⟨⟨⟨⟨hinfrastructure, hnetworks⟩, hpool⟩, hcontrolPlane⟩, hbalancers⟩, hworkers⟩,
      hzones⟩ := h
    refine ⟨hinfrastructure, ?_, hpool, hcontrolPlane, hbalancers, hworkers, ?_⟩
    · intro before hbefore
      rw [hbefore] at hnetworks
      exact hnetworks
    · intro before hbefore
      rw [hbefore] at hzones
      exact hzones
  · intro h
    refine ⟨⟨⟨⟨⟨⟨h.infrastructure, ?_⟩, h.poolOffered⟩, h.controlPlane⟩, h.balancersOffered⟩,
      h.workers⟩, ?_⟩
    -- without an old state the two comparisons have nothing to find
    · cases hbefore : c.oldInfrastructure with
      | none => rfl
      | some before => exact h.networksKept before hbefore
    · cases hbefore : old with
      | none => rfl
      | some before => exact h.zonesKept before hbefore

/-- A shoot of the provider has nothing wrong exactly if it is accepted with some payloads in some
surroundings. -/
theorem checkOpenstack_eq_nil_iff :
    shoot.checkOpenstack old lookup = .ok [] ↔ ∃ c s, shoot.Accepted old lookup c s := by
  unfold checkOpenstack
  constructor
  · intro h
    -- the cases are the early ends, each of which has an error of its own
    cases hconfigs : shoot.configs old with
    | error e =>
      rw [hconfigs] at h
      cases h
    | ok outcome =>
      rw [hconfigs] at h
      cases outcome with
      | error missing => exact absurd (Except.ok.inj h) (List.append_ne_nil_of_right_ne_nil _ nofun)
      | ok c =>
        cases hreference : shoot.spec.profileReference? with
        | none =>
          rw [hreference] at h
          exact absurd (Except.ok.inj h) (List.append_ne_nil_of_right_ne_nil _ nofun)
        | some reference =>
          rw [hreference] at h
          obtain ⟨s, hs, hnil⟩ := map_eq_ok_iff.mp h
          obtain ⟨hnetworking, hfaultless⟩ := List.append_eq_nil_iff.mp hnil
          exact ⟨c, s,
            { reads := configs_eq_ok_iff.mp hconfigs
              found := ⟨reference, hreference, hs⟩
              networking := hnetworking
              faultless := checkConfigs_eq_nil_iff.mp hfaultless }⟩
  · rintro ⟨c, s, h⟩
    obtain ⟨reference, hreference, hs⟩ := h.found
    simp only [configs_eq_ok_iff.mpr h.reads, hreference, hs, Except.map, h.networking,
      checkConfigs_eq_nil_iff.mpr h.faultless, List.append_nil]

/-- **What it takes to admit a shoot of the provider.** -/
theorem review_shoot_eq_ok_iff (hprovider : shoot.spec.provider.providerType = openstackType)
    (hstays : shoot.metadata.isDeleting = false) :
    (Resource.shoot shoot).review (old.map .shoot) lookup = .ok () ↔
      ∃ c s, shoot.Accepted old lookup c s := by
  have hmismatch : (Resource.shoot shoot).mismatch? (old.map .shoot) = none := by
    cases old <;> rfl
  have hold : (old.map Resource.shoot).bind Resource.shoot? = old := by
    cases old <;> rfl
  have hcheck : (Resource.shoot shoot).check (old.map .shoot) lookup =
      shoot.checkOpenstack old lookup := by
    show shoot.check _ lookup = _
    rw [hold, check, if_neg (not_not_intro hprovider)]
  have hkept : (Resource.shoot shoot).metadata.isDeleting = false := hstays
  rw [Resource.review_eq_ok_iff, hcheck, checkOpenstack_eq_nil_iff, hmismatch, hkept]
  simp only [Bool.false_eq_true, false_or, true_and]

end Shoot

/-! A landscape with two pools, each with a class of its own, and a shoot on one of them. -/

def classNamed (name : String) : LoadBalancerClass := ⟨name, none, none, none, none, none, none⟩

def poolWithClass (name className : String) : FloatingPool where
  name := name
  region := none
  domain := none
  defaultFloatingSubnet := none
  nonConstraining := none
  loadBalancerClasses := [classNamed className]

def poolsWithClasses : CloudProfileConfig where
  constraints :=
    { floatingPools := [poolWithClass "fip-internal" "internal", poolWithClass "fip-public" "public"]
      loadBalancerProviders := [{ name := "amphora", region := none }] }

/-- A profile with this configuration. -/
def profileWithConfig (config : CloudProfileConfig) : CloudProfile where
  metadata := { name := some "openstack" }
  spec :=
    { providerType := openstackType, machineImages := [], machineCapabilities := []
      providerConfig := some (encode config) }

def lookupPoolsWithClasses : Lookup := .ofResources [.cloudProfile (profileWithConfig poolsWithClasses)]

def infrastructureOn (floatingPoolName : String) : InfrastructureConfig where
  typeMeta := {}
  floatingPoolName := floatingPoolName
  floatingPoolSubnetName := none
  networks := { workers := some "10.250.0.0/16" }

/-- A control plane with the class of the internal pool. -/
def controlPlaneWithClass : ControlPlaneConfig where
  typeMeta := {}
  loadBalancerProvider := "amphora"
  loadBalancerClasses := [classNamed "internal"]
  storage := none

def shootOnPool (floatingPoolName : String) (workers : List Worker) : Shoot where
  metadata := { name := some "dev", space := some "garden-dev" }
  spec :=
    { cloudProfileName := some "openstack", cloudProfile := none, region := "eu-1"
      secretBindingName := none, credentialsBindingName := none
      networking := some { nodes := some "10.250.0.0/16", pods := none, services := none }
      provider :=
        { providerType := openstackType
          infrastructureConfig := some (encode (infrastructureOn floatingPoolName))
          controlPlaneConfig := some (encode controlPlaneWithClass)
          workers } }

def workerIn (name : String) (zones : List String) : Worker :=
  { name, zones, labels := Dict.empty, providerConfig := none }

def shootOnInternal : Shoot := shootOnPool "fip-internal" [workerIn "pool" ["eu-1a"]]

example : (Resource.shoot shootOnInternal).review none lookupPoolsWithClasses = .ok () := by
  rfl

end OpenstackAdmission
