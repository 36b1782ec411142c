import Mathlib.Data.List.Basic
import OpenstackAdmission.Checks.Worker
import OpenstackAdmission.Proofs.Checks.Infrastructure
import OpenstackAdmission.Proofs.Report.Places

/-!
# Worker pools that fit

A pool of workers has zones and maybe a payload that configures it, which has to fit the pool and the cloud profile.

> `checkAll_iff_fits`: pools are accepted exactly if every one of them fits. Their errors are those of the first pool,
of the second and so on, and the errors under the index of a pool are those of this pool.

A pool is looked at as a whole: its payload is read although it has no zones, and every label is compared with the pool
although another one is wrong. A label whose name has occurred before is not compared with the pool again, which makes
no difference, because the first label of the name has been.
-/

namespace OpenstackAdmission

/-- The configuration fits its pool and chooses from what the profile offers. -/
structure WorkerConfig.Fits (c : WorkerConfig) (pool : Worker) (profile : CloudProfileConfig) :
    Prop where
  policy : ∀ group, c.serverGroup = some group →
    group.policy ≠ "" ∧ group.policy ∈ profile.serverGroupPolicies
  /-- One host is in one zone. -/
  affinity : ∀ group, c.serverGroup = some group → group.policy = "affinity" →
    pool.zones.length ≤ 1
  labelTexts : ∀ label ∈ c.machineLabels,
    (1 ≤ label.name.length ∧ IsResourceName label.name) ∧
      1 ≤ label.value.length ∧ IsResourceName label.value
  labelNames : (c.machineLabels.map MachineLabel.name).Nodup
  /-- Machines are not labelled with what their nodes are labelled with. -/
  ownLabels : ∀ label ∈ c.machineLabels, label.name ∉ pool.labels.keys

/-- What a pool has to be like. -/
structure Worker.Fits (pool : Worker) (profile : CloudProfileConfig) : Prop where
  zones : 1 ≤ pool.zones.length
  config : ∀ payload, pool.providerConfig = some payload →
    ∃ c : WorkerConfig, decode payload = .ok c ∧ c.Fits pool profile

variable {pool : Worker} {profile : CloudProfileConfig} {path : FieldPath}

/-! ## What is found -/

/-- A server group has a policy that the profile offers. An empty one is not looked up there. -/
theorem ServerGroup.check_eq_nil_iff {group : ServerGroup} :
    group.check profile path = [] ↔
      group.policy ≠ "" ∧ group.policy ∈ profile.serverGroupPolicies := by
  unfold ServerGroup.check
  by_cases hempty : group.policy = ""
  · rw [if_pos hempty]
    exact iff_of_false (List.cons_ne_nil _ _) fun h => h.1 hempty
  · rw [if_neg hempty, errorIf_eq_nil_iff, decide_eq_false_iff_not, Classical.not_not]
    exact (and_iff_right hempty).symm

/-- The labels of machines are all well formed, and their names are apart from each other and from the pool's. -/
theorem MachineLabel.checkAll_eq_nil_iff {labels : List MachineLabel} :
    MachineLabel.checkAll labels pool path = [] ↔
      (labels.map MachineLabel.name).Nodup ∧ ∀ label ∈ labels,
        (1 ≤ label.name.length ∧ IsResourceName label.name) ∧
          (1 ≤ label.value.length ∧ IsResourceName label.value) ∧
            label.name ∉ pool.labels.keys := by
  unfold MachineLabel.checkAll List.Nodup
  rw [List.pairwise_map]
  -- names differ as soon as each of them differs from those before it
  apply checkEachAfter_eq_nil_iff
  intro i earlier label
  rw [List.append_eq_nil_iff, List.append_eq_nil_iff]
  unfold TextCheck.machineLabelName TextCheck.machineLabelValue
  rw [resourceName_eq_nil_iff_isResourceName, resourceName_eq_nil_iff_isResourceName]
  by_cases hrepeated : earlier.any (·.name = label.name) = true
  · -- a repeated name is wrong by itself
    rw [if_pos hrepeated]
    obtain ⟨e, he, hname⟩ := List.any_eq_true.mp hrepeated
    exact iff_of_false (fun h => List.cons_ne_nil _ _ h.2) fun h => h.1 e he (of_decide_eq_true hname)
  · rw [if_neg hrepeated, errorIf_eq_nil_iff, ← Dict.contains_iff, Bool.not_eq_true]
    simp only [List.any_eq_true, decide_eq_true_eq, not_exists, not_and] at hrepeated
    constructor
    · rintro ⟨⟨hname, hvalue⟩, howned⟩
      exact ⟨hrepeated, hname, hvalue, howned⟩
    · rintro ⟨-, hname, hvalue, howned⟩
      exact ⟨⟨hname, hvalue⟩, howned⟩

/-- The policy of one host is for pools in one zone. -/
theorem affinity_eq_false_iff {group : ServerGroup} :
    (group.policy = affinityPolicy && 1 < pool.zones.length) = false ↔
      (group.policy = "affinity" → pool.zones.length ≤ 1) := by
  unfold affinityPolicy
  rw [Bool.and_eq_false_iff, decide_eq_false_iff_not, decide_eq_false_iff_not, Nat.not_lt,
    imp_iff_not_or]

/-- The configuration of a pool fits if its labels and its server group do. Labels are compared with those
before them and with those of the pool. -/
theorem WorkerConfig.check_eq_nil_iff_fits {c : WorkerConfig} :
    c.check pool profile path = [] ↔ c.Fits pool profile := by
  have hparts : c.Fits pool profile ↔
      (∀ group, c.serverGroup = some group →
        (group.policy ≠ "" ∧ group.policy ∈ profile.serverGroupPolicies) ∧
          (group.policy = "affinity" → pool.zones.length ≤ 1)) ∧
        (c.machineLabels.map MachineLabel.name).Nodup ∧ ∀ label ∈ c.machineLabels,
          (1 ≤ label.name.length ∧ IsResourceName label.name) ∧
            (1 ≤ label.value.length ∧ IsResourceName label.value) ∧
              label.name ∉ pool.labels.keys := by
    constructor
    · intro h
      refine ⟨fun group hgroup => ⟨h.policy group hgroup, h.affinity group hgroup⟩, h.labelNames, ?_⟩
      intro label hlabel
      obtain ⟨hname, hvalue⟩ := h.labelTexts label hlabel
      exact ⟨hname, hvalue, h.ownLabels label hlabel⟩
    · rintro ⟨hgroup, hnames, hlabels⟩
      exact
        { policy := fun group h => (hgroup group h).1
          affinity := fun group h => (hgroup group h).2
          labelTexts := fun label h => ⟨(hlabels label h).1, (hlabels label h).2.1⟩
          labelNames := hnames
          ownLabels := fun label h => (hlabels label h).2.2 }
  -- the conditions on labels are those of their list, so what is left is the server group
  unfold WorkerConfig.check
  rw [List.append_eq_nil_iff, MachineLabel.checkAll_eq_nil_iff, hparts]
  refine and_congr_left fun _ => ?_
  cases c.serverGroup with
  | none => simp
  | some group =>
    simp only [List.append_eq_nil_iff, ServerGroup.check_eq_nil_iff, errorIf_eq_nil_iff,
      affinity_eq_false_iff, Option.some.injEq, forall_eq']

namespace Worker

/-- A pool fits if it has zones and its configuration, when there is one, can be decoded and fits. -/
theorem check_eq_nil_iff_fits : pool.check profile path = [] ↔ pool.Fits profile := by
  have hzones : decide (pool.zones = []) = false ↔ 1 ≤ pool.zones.length := by
    rw [decide_eq_false_iff_not, Nat.one_le_iff_ne_zero, ne_eq, List.length_eq_zero_iff]
  have hparts : pool.Fits profile ↔ 1 ≤ pool.zones.length ∧
      ∀ payload, pool.providerConfig = some payload →
        ∃ c : WorkerConfig, decode payload = .ok c ∧ c.Fits pool profile :=
    ⟨fun h => ⟨h.zones, h.config⟩, fun h => ⟨h.1, h.2⟩⟩
  unfold check
  rw [List.append_eq_nil_iff, errorIf_eq_nil_iff, hzones, hparts]
  refine and_congr_right fun _ => ?_
  cases pool.providerConfig with
  | none => simp
  | some payload =>
    cases hread : (decode payload : Except DecodeError WorkerConfig) with
    | error e => simp [hread]
    | ok c => simp [hread, WorkerConfig.check_eq_nil_iff_fits]

end Worker

/-! ## Where it is found -/

/-- The errors of a name all stand at the place of the name, as a name has no parts. -/
theorem TextCheck.resourceName_under (text : String) (path : FieldPath) :
    StandUnder path (TextCheck.resourceName text path) := by
  unfold TextCheck.resourceName TextCheck.all
  apply standUnder_flatMap
  simp only [List.forall_mem_cons, List.not_mem_nil, false_implies, implies_true, and_true]
  have hself := FieldPath.under_refl path
  exact ⟨standUnder_errorIf hself, standUnder_errorIf hself, standUnder_errorIf hself⟩

/-- Labels are judged one by one below their list. -/
theorem MachineLabel.checkAll_under (labels : List MachineLabel) (pool : Worker) {root : FieldPath}
    (h : path.Under root) : StandUnder root (MachineLabel.checkAll labels pool path) := by
  unfold MachineLabel.checkAll
  apply standUnder_checkEachAfter h
  intro path earlier label hlabel
  have hname := hlabel.child "name"
  refine standUnder_append (standUnder_append ?_ ?_) ?_
  · exact (TextCheck.resourceName_under _ _).trans hname
  · exact (TextCheck.resourceName_under _ _).trans (hlabel.child "value")
  · split
    · exact standUnder_singleton hname
    · exact standUnder_errorIf hname

/-- A configuration is judged in its labels and in its server group, and the pool that it is from is only
read. -/
theorem WorkerConfig.check_under (c : WorkerConfig) (pool : Worker) (profile : CloudProfileConfig)
    {root : FieldPath} (h : path.Under root) : StandUnder root (c.check pool profile path) := by
  unfold WorkerConfig.check
  refine standUnder_append ?_ (MachineLabel.checkAll_under _ _ (h.child "machineLabels"))
  cases c.serverGroup with
  | none => exact standUnder_nil
  | some group =>
    have hpolicy := (h.child "serverGroup").child "policy"
    refine standUnder_append ?_ (standUnder_errorIf hpolicy)
    unfold ServerGroup.check
    dsimp only
    split
    · exact standUnder_singleton hpolicy
    · exact standUnder_errorIf hpolicy

namespace Worker

/-- The errors of a pool stand below the pool, those of its configuration below the field for that. -/
theorem check_under (pool : Worker) (profile : CloudProfileConfig) (path : FieldPath) :
    StandUnder path (pool.check profile path) := by
  have hself := FieldPath.under_refl path
  have hconfig := hself.child "providerConfig"
  unfold check
  refine standUnder_append (standUnder_errorIf (hself.child "zones")) ?_
  cases pool.providerConfig with
  | none => exact standUnder_nil
  | some payload =>
    dsimp only
    cases (decode payload : Except DecodeError WorkerConfig) with
    | error e => exact standUnder_singleton hconfig
    | ok c => exact c.check_under pool profile hconfig

/-- **Pools are accepted exactly if every one fits.** The errors are those of the pools, one pool after the other, and
those under the index of a pool are those of this pool. -/
theorem checkAll_iff_fits (pools : List Worker) (profile : CloudProfileConfig) (path : FieldPath) :
    (checkAll pools profile path = [] ↔ ∀ pool ∈ pools, pool.Fits profile) ∧
      checkAll pools profile path =
        (pools.mapIdx fun i pool => pool.check profile (path.index i)).flatten ∧
      ∀ i pool, pools[i]? = some pool →
        errorsUnder (path.index i) (checkAll pools profile path) =
          pool.check profile (path.index i) := by
  refine ⟨?accepted, ?sequence, ?single⟩
  case accepted => exact checkEach_eq_nil_iff_forall_mem fun _ _ => check_eq_nil_iff_fits
  case sequence =>
    unfold checkAll checkEach
    rw [List.mapIdx_eq_zipIdx_map, List.flatMap_def]
  case single =>
    intro i pool hi
    exact errorsUnder_checkEach (fun path pool => check_under pool profile path) hi

/-! A pool on one host, behind one without zones whose label is the pool's as well. -/

def poolWithoutZones : Worker where
  name := "front"
  zones := []
  labels := Dict.ofList [("role", "front")]
  providerConfig := some (encode
    ({ typeMeta := {}, serverGroup := none, machineLabels := [⟨"role", "front", false⟩] } : WorkerConfig))

def poolOnOneHost : Worker where
  name := "store"
  zones := ["eu-1a"]
  labels := Dict.ofList [("role", "store")]
  providerConfig := some (encode
    ({ typeMeta := {}
       serverGroup := some { policy := "affinity" }
       machineLabels := [⟨"team", "blue", false⟩, ⟨"tier", "1", true⟩] } : WorkerConfig))

def profileWithAffinity : CloudProfileConfig where
  serverGroupPolicies := ["soft-anti-affinity", "affinity"]

/-- The first pool has no zones and a label of its nodes for its machines. These two errors are not found
under the index of the second pool, which fits. -/
theorem checkAll_poolOnOneHost :
    poolOnOneHost.Fits profileWithAffinity ∧ ¬ poolWithoutZones.Fits profileWithAffinity ∧
      errorsUnder ((FieldPath.root "workers").index 1)
        (checkAll [poolWithoutZones, poolOnOneHost] profileWithAffinity (.root "workers")) = [] := by
  have haccepted : checkAll [poolOnOneHost] profileWithAffinity (.root "workers") = [] := by
    rfl
  have hlength : (checkAll [poolWithoutZones] profileWithAffinity (.root "workers")).length = 2 := by
    rfl
  refine ⟨?fits, ?misfit, ?single⟩
  case fits => exact (checkAll_iff_fits _ _ _).1.mp haccepted _ (List.mem_singleton_self _)
  case misfit =>
    intro hfits
    have hall : ∀ pool ∈ [poolWithoutZones], pool.Fits profileWithAffinity := by
      intro pool hpool
      rwa [List.mem_singleton.mp hpool]
    rw [(checkAll_iff_fits _ _ _).1.mpr hall] at hlength
    cases hlength
  case single =>
    exact ((checkAll_iff_fits [poolWithoutZones, poolOnOneHost] profileWithAffinity _).2.2 1
      poolOnOneHost rfl).trans rfl

end Worker

end OpenstackAdmission
