import OpenstackAdmission.Checks.Infrastructure
import OpenstackAdmission.Proofs.Net.Containment

/-!
# Well-formed infrastructures

An infrastructure is checked on its own, beside the text of the network of the nodes if there is one.

> `check_eq_nil_iff_wellFormed`: the check finds nothing exactly if the infrastructure is well formed.

Where the network of the workers is missing or cannot be read, the check says so and stops. No infrastructure is
well formed then, so what it has not looked at makes no difference. A network of the nodes that cannot be read asks
for nothing: other checks see to it.
-/

namespace OpenstackAdmission

/-- The text may name a resource: it is not too long and has no brace, no bracket and no line feed. -/
def IsResourceName (text : String) : Prop :=
  text.length ≤ 255 ∧ ∀ c ∈ text.toList, c ∉ ['\x7b', '\x7d', '[', ']', '\n']

/-- The text may identify a resource. -/
def IsResourceId (text : String) : Prop := text ≠ "" ∧ Text.Uuid.isUuid text = true

/-- The network is written without bits behind its prefix, and all its addresses are addresses of the network of
the nodes, if there is a text for that and it can be read. -/
structure Net.Cidr.ServesWorkers (workers : Net.Cidr) (nodes : Option String) : Prop where
  canonical : ∀ place, workers.prefixLength ≤ place → place < workers.address.family.width →
    workers.address.bit place = false
  within : ∀ text, nodes = some text → ∀ network, Net.Cidr.parse text = .ok network →
    ∀ address ∈ workers, address ∈ network

/-- What an infrastructure has to be like. -/
structure InfrastructureConfig.WellFormed (c : InfrastructureConfig) (nodes : Option String) :
    Prop where
  floatingPool : 1 ≤ c.floatingPoolName.length ∧ IsResourceName c.floatingPoolName
  /-- A subnet may be named where no router is given that exists already. -/
  subnetName : ∀ name, c.floatingPoolSubnetName = some name →
    IsResourceName name ∧ ∀ router, c.networks.router = some router → router.id = ""
  router : ∀ router, c.networks.router = some router → IsResourceId router.id
  network : ∀ id, c.networks.id = some id → IsResourceId id
  /-- A subnet belongs to a network that is given. -/
  subnet : ∀ id, c.networks.subnetId = some id → IsResourceId id ∧ ∃ id, c.networks.id = some id
  /-- The newer field for the workers counts before the older one. -/
  workers : ∃ text, c.networks.workers.or c.networks.worker = some text ∧
    ∃ workers, Net.Cidr.parse text = .ok workers ∧ workers.ServesWorkers nodes

/-- The names of resources, with the bound and the characters of the check spelled out. -/
theorem isResourceName_iff {text : String} :
    IsResourceName text ↔ text.length ≤ TextCheck.nameBound ∧
      ∀ c ∈ text.toList, TextCheck.isStructural c = false := by
  unfold IsResourceName TextCheck.isStructural TextCheck.nameBound
  simp only [decide_eq_false_iff_not]

/-- A required name has one character at least, and the other conditions are those of a name that may be
left empty. -/
theorem resourceName_eq_nil_iff_isResourceName {text : String} {path : FieldPath} :
    TextCheck.resourceName text path = [] ↔ 1 ≤ text.length ∧ IsResourceName text := by
  rw [TextCheck.resourceName_eq_nil_iff, isResourceName_iff, Nat.one_le_iff_ne_zero, ne_eq, ne_eq,
    String.length_eq_zero_iff]

namespace InfrastructureConfig

variable {c : InfrastructureConfig} {nodes : Option String} {path : FieldPath}

/-- A router counts as given if it has an identifier. One that is stated with an empty identifier does not.
-/
theorem usesRouter_eq_false_iff :
    c.usesRouter = false ↔ ∀ router, c.networks.router = some router → router.id = "" := by
  unfold usesRouter
  cases c.networks.router with
  | none => simp
  | some router => simp

/-- The pool is named, and a subnet of it may be named too where no router is given. -/
theorem checkFloatingPool_eq_nil_iff :
    c.checkFloatingPool path = [] ↔
      (1 ≤ c.floatingPoolName.length ∧ IsResourceName c.floatingPoolName) ∧
        ∀ name, c.floatingPoolSubnetName = some name →
          IsResourceName name ∧ ∀ router, c.networks.router = some router → router.id = "" := by
  unfold checkFloatingPool
  rw [List.append_eq_nil_iff, resourceName_eq_nil_iff_isResourceName]
  refine and_congr_right fun _ => ?_
  cases c.floatingPoolSubnetName with
  | none => simp
  | some name =>
    simp only [List.append_eq_nil_iff, TextCheck.optionalResourceName_eq_nil_iff, errorIf_eq_nil_iff,
      isResourceName_iff, usesRouter_eq_false_iff, Option.some.injEq, forall_eq']

/-- What is identified has to be there under a proper identifier, and a subnet is not given without its
network. -/
theorem checkIds_eq_nil_iff {n : Networks} :
    checkIds n path = [] ↔
      (∀ router, n.router = some router → IsResourceId router.id) ∧
        (∀ id, n.id = some id → IsResourceId id) ∧
          ∀ id, n.subnetId = some id → IsResourceId id ∧ ∃ id, n.id = some id := by
  unfold checkIds IsResourceId
  rw [List.append_eq_nil_iff, List.append_eq_nil_iff, and_assoc]
  refine and_congr ?router (and_congr ?network ?subnet)
  case router => cases n.router <;> simp
  case network => cases n.id <;> simp
  case subnet =>
    cases n.subnetId with
    | none => simp
    | some id =>
      simp only [List.append_eq_nil_iff, TextCheck.resourceId_eq_nil_iff, errorIf_eq_nil_iff,
        Option.isNone_eq_false_iff, Option.isSome_iff_exists, Option.some.injEq, forall_eq']

/-- What the network of the workers is compared with, if anything. -/
theorem servesWorkers_iff {workers : Net.Cidr} :
    workers.ServesWorkers nodes ↔ workers.isCanonical = true ∧
      ∀ text, nodes = some text → ∀ network, Net.Cidr.parse text = .ok network →
        network.contains workers = true := by
  -- a network has its own address, so inclusion already tells the family
  have hcontains (network : Net.Cidr) :
      network.contains workers = true ↔ ∀ address ∈ workers, address ∈ network := by
    rw [Net.Cidr.contains_iff]
    exact and_iff_right_of_imp fun h => (h _ workers.address_mem).1.symm
  simp only [hcontains, Net.Cidr.isCanonical_iff_bit]
  exact ⟨fun h => ⟨h.canonical, h.within⟩, fun h => ⟨h.1, h.2⟩⟩

/-- The text of the workers is a network that serves them. The check stops at a text that is none, and such
a text serves nobody. -/
theorem checkWorkers_eq_nil_iff {text : String} :
    checkWorkers text nodes path = [] ↔
      ∃ workers, Net.Cidr.parse text = .ok workers ∧ workers.ServesWorkers nodes := by
  unfold checkWorkers
  by_cases hempty : text = ""
  · -- the empty text is no network
    rw [if_pos hempty, hempty]
    have hparse : Net.Cidr.parse "" = .error .missingPrefixLength := rfl
    simp [hparse]
  · rw [if_neg hempty]
    cases hparse : Net.Cidr.parse text with
    | error e => simp
    | ok workers =>
      simp only [List.append_eq_nil_iff, errorIf_eq_nil_iff, Bool.not_eq_false', Except.ok.injEq,
        exists_eq_left', servesWorkers_iff]
      refine and_congr_right fun _ => ?_
      cases nodes with
      | none => simp
      | some text =>
        cases hnodes : Net.Cidr.parse text with
        | error e => simp [hnodes]
        | ok network => simp [hnodes]

/-- **An infrastructure is accepted exactly if it is well formed.** -/
theorem check_eq_nil_iff_wellFormed (c : InfrastructureConfig) (nodes : Option String)
    (path : FieldPath) : c.check nodes path = [] ↔ c.WellFormed nodes := by
  -- without either field the text is empty, which is no network
  have hworkers (path : FieldPath) :
      checkWorkers c.networks.effectiveWorkers.1 nodes path = [] ↔
        ∃ text, c.networks.workers.or c.networks.worker = some text ∧
          ∃ workers, Net.Cidr.parse text = .ok workers ∧ workers.ServesWorkers nodes := by
    unfold Networks.effectiveWorkers
    cases c.networks.workers with
    | some workers => simp [checkWorkers_eq_nil_iff]
    | none =>
      cases c.networks.worker with
      | some worker => simp [checkWorkers_eq_nil_iff]
      | none => simp [checkWorkers]
  unfold check
  rw [List.append_eq_nil_iff, List.append_eq_nil_iff, checkFloatingPool_eq_nil_iff,
    checkIds_eq_nil_iff, hworkers]
  constructor
  · rintro ⟨⟨⟨hpool, hsubnetName⟩, hrouter, hnetwork, hsubnet⟩, hworkers⟩
    exact ⟨hpool, hsubnetName, hrouter, hnetwork, hsubnet, hworkers⟩
  · intro h
    exact ⟨⟨⟨h.floatingPool, h.subnetName⟩, h.router, h.network, h.subnet⟩, h.workers⟩

end InfrastructureConfig

end OpenstackAdmission
