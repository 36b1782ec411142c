import OpenstackAdmission.Proofs.Admission.Shoot

/-!
# What a shoot keeps

An update is compared with the shoot that it replaces and with nothing before it. A pool of workers is compared
with the first pool of its name there, whatever the order of the pools and however many have this name.

> `kept_of_history`: through any number of updates the networks stay as they were created, and if no state lacks
a pool of a name, the zones of the first such pool are the first zones of all such pools later.

One update keeps the networks (`Admitted.hasNetworks`) and puts new zones at the end (`Admitted.zones_prefix`).
That the networks of the old state are there to compare with comes from its own admission.
-/

namespace OpenstackAdmission

/-- An update of an infrastructure has nothing wrong exactly if the networks are the same. -/
theorem InfrastructureConfig.checkUpdate_eq_nil_iff {old c : InfrastructureConfig}
    {path : FieldPath} : old.checkUpdate c path = [] ↔ old.networks = c.networks := by
  unfold InfrastructureConfig.checkUpdate
  rw [errorIf_eq_nil_iff, decide_eq_false_iff_not, Classical.not_not]

/-- What is found is a pool of that name. -/
theorem Worker.mem_of_find? {workers : List Worker} {name : String} {worker : Worker}
    (h : Worker.find? workers name = some worker) : worker ∈ workers ∧ worker.name = name := by
  have hname := List.find?_some h
  exact ⟨List.mem_of_find?_eq_some h, of_decide_eq_true hname⟩

/-- An update of pools has nothing wrong exactly if every pool begins with the zones of the first old pool of its
name. -/
theorem Worker.checkUpdate_eq_nil_iff {old workers : List Worker} {path : FieldPath} :
    Worker.checkUpdate old workers path = [] ↔
      ∀ worker ∈ workers, ∀ before, Worker.find? old worker.name = some before →
        before.zones <+: worker.zones := by
  unfold Worker.checkUpdate
  apply checkEach_eq_nil_iff_forall_mem
  intro i worker
  cases Worker.find? old worker.name with
  | none => simp only [reduceCtorEq, false_implies, implies_true]
  | some before =>
    simp only [errorIf_eq_nil_iff, Bool.not_eq_false', List.isPrefixOf_iff_prefix,
      Option.some.injEq, forall_eq']

namespace Shoot

/-- The shoot asks for these networks. -/
def HasNetworks (shoot : Shoot) (networks : Networks) : Prop :=
  ∃ c : InfrastructureConfig,
    Holds shoot.spec.provider.infrastructureConfig (some c) ∧ c.networks = networks

/-- The shoot has a pool of this name. -/
def HasPool (shoot : Shoot) (name : String) : Prop :=
  ∃ worker ∈ shoot.spec.provider.workers, worker.name = name

/-- The shoot is one of the provider, is not on its way out, and was admitted. -/
structure Admitted (shoot : Shoot) (old : Option Shoot) : Prop where
  provider : shoot.spec.provider.providerType = openstackType
  stays : shoot.metadata.isDeleting = false
  review : ∃ lookup, (Resource.shoot shoot).review (old.map .shoot) lookup = .ok ()

/-- A shoot was admitted as a new one in its first state and is in its last state now, after the earlier ones.
Each state was admitted in place of the one before, with whatever could be looked up then. -/
inductive History (first : Shoot) : List Shoot → Shoot → Prop where
  | created (h : first.Admitted none) : History first [] first
  | updated {earlier : List Shoot} {last next : Shoot} (h : History first earlier last)
      (hnext : next.Admitted (some last)) : History first (earlier ++ [last]) next

variable {shoot old first last : Shoot} {earlier : List Shoot} {networks : Networks} {name : String}

/-! ## One admission -/

/-- An admission is one under some lookup, and what it takes is known there; the lookups of two states need
not be related. -/
theorem Admitted.accepted {old : Option Shoot} (h : shoot.Admitted old) :
    ∃ lookup c s, shoot.Accepted old lookup c s := by
  obtain ⟨lookup, hreview⟩ := h.review
  exact ⟨lookup, (review_shoot_eq_ok_iff h.provider h.stays).mp hreview⟩

/-- What is admitted has networks that can be read. -/
theorem Admitted.exists_hasNetworks {old : Option Shoot} (h : shoot.Admitted old) :
    ∃ networks, shoot.HasNetworks networks := by
  obtain ⟨lookup, c, s, haccepted⟩ := h.accepted
  exact ⟨c.infrastructure.networks, c.infrastructure, haccepted.reads.infrastructure, rfl⟩

/-- An update keeps the networks. -/
theorem Admitted.hasNetworks (h : shoot.Admitted (some old)) (hold : old.HasNetworks networks) :
    shoot.HasNetworks networks := by
  obtain ⟨lookup, c, s, haccepted⟩ := h.accepted
  obtain ⟨before, hbefore, rfl⟩ := hold
  -- the old payload is read again, as what it was read as before
  have hread : c.oldInfrastructure = some before :=
    haccepted.reads.oldInfrastructure.unique hbefore
  have hkept := haccepted.faultless.networksKept before hread
  exact ⟨c.infrastructure, haccepted.reads.infrastructure,
    (InfrastructureConfig.checkUpdate_eq_nil_iff.mp hkept).symm⟩

/-- An update adds zones at the end. -/
theorem Admitted.zones_prefix (h : shoot.Admitted (some old)) {worker before : Worker}
    (hworker : worker ∈ shoot.spec.provider.workers)
    (hbefore : Worker.find? old.spec.provider.workers worker.name = some before) :
    before.zones <+: worker.zones := by
  obtain ⟨lookup, c, s, haccepted⟩ := h.accepted
  have hkept := haccepted.faultless.zonesKept old rfl
  exact Worker.checkUpdate_eq_nil_iff.mp hkept worker hworker before hbefore

/-! ## Any number of updates -/

/-- A shoot that has a pool of a name has a first one. -/
theorem HasPool.find? (h : shoot.HasPool name) :
    ∃ worker, Worker.find? shoot.spec.provider.workers name = some worker := by
  obtain ⟨worker, hworker, hname⟩ := h
  apply Option.isSome_iff_exists.mp
  exact List.find?_isSome.mpr ⟨worker, hworker, decide_eq_true hname⟩

/-- All states have the networks of the first. -/
theorem History.hasNetworks (h : History first earlier last) :
    ∃ networks, ∀ state ∈ earlier ++ [last], state.HasNetworks networks := by
  induction h with
  | created h =>
    obtain ⟨networks, hnetworks⟩ := h.exists_hasNetworks
    refine ⟨networks, ?_⟩
    intro state hstate
    obtain rfl := List.mem_singleton.mp hstate
    exact hnetworks
  | @updated earlier last next _ hnext ih =>
    obtain ⟨networks, hnetworks⟩ := ih
    refine ⟨networks, ?_⟩
    intro state hstate
    rw [List.mem_append, List.mem_singleton] at hstate
    rcases hstate with hearlier | rfl
    · exact hnetworks state hearlier
    · exact hnext.hasNetworks (hnetworks last List.mem_concat_self)

/-- If no state lacks a pool of a name, the first such pool of the last state has the zones of that of the first
state at the beginning. -/
theorem History.zones_prefix (h : History first earlier last)
    (hname : ∀ state ∈ earlier ++ [last], state.HasPool name) :
    ∃ before, Worker.find? first.spec.provider.workers name = some before ∧
      ∃ current, Worker.find? last.spec.provider.workers name = some current ∧
        before.zones <+: current.zones := by
  induction h with
  | created _ =>
    obtain ⟨before, hbefore⟩ := (hname first (List.mem_singleton_self _)).find?
    exact ⟨before, hbefore, before, hbefore, List.prefix_rfl⟩
  | @updated earlier last next _ hnext ih =>
    obtain ⟨before, hbefore, current, hcurrent, hzones⟩ :=
      ih fun state hstate => hname state (List.mem_append_left _ hstate)
    obtain ⟨worker, hworker⟩ := (hname next List.mem_concat_self).find?
    -- only the first pool of the name is compared with next time
    obtain ⟨hmem, rfl⟩ := Worker.mem_of_find? hworker
    exact ⟨before, hbefore, worker, hworker, hzones.trans (hnext.zones_prefix hmem hcurrent)⟩

/-- **Networks and zones of a shoot are for good.** All states of a shoot have the same networks; and if no state
lacks a pool of a name, the zones of the first such pool at the beginning are a prefix of those of every such
pool at the end. -/
theorem kept_of_history (h : History first earlier last) :
    (∃ networks, ∀ state ∈ earlier ++ [last], state.HasNetworks networks) ∧
      (earlier ≠ [] → ∀ name, (∀ state ∈ earlier ++ [last], state.HasPool name) →
        ∃ before, Worker.find? first.spec.provider.workers name = some before ∧
          ∀ worker ∈ last.spec.provider.workers, worker.name = name →
            before.zones <+: worker.zones) := by
  refine ⟨h.hasNetworks, ?_⟩
  intro hupdated name hname
  cases h with
  | created _ => exact absurd rfl hupdated
  | @updated earlier before last h hnext =>
    -- the first pool of the state before the last stands between
    obtain ⟨pool, hpool, current, hcurrent, hzones⟩ :=
      h.zones_prefix fun state hstate => hname state (List.mem_append_left _ hstate)
    refine ⟨pool, hpool, ?_⟩
    intro worker hworker hname
    exact hzones.trans (hnext.zones_prefix hworker (hname ▸ hcurrent))

/-! A pool that is declared twice after the first update, with the order of the pools changed, and once after the
second. -/

def shootWithTwins : Shoot :=
  shootOnPool "fip-internal" [workerIn "extra" ["eu-1b"], workerIn "pool" ["eu-1a", "eu-1b"],
    workerIn "pool" ["eu-1a", "eu-1c"]]

def shootAfterTwins : Shoot :=
  shootOnPool "fip-internal" [workerIn "pool" ["eu-1a", "eu-1b", "eu-1c"]]

/-- After the twins, the one pool of the name has to begin with the zones of the pool at the beginning, not
with those of the second twin. -/
theorem kept_shootAfterTwins :
    History shootOnInternal [shootOnInternal, shootWithTwins] shootAfterTwins ∧
      (∀ state ∈ [shootOnInternal, shootWithTwins, shootAfterTwins], state.HasPool "pool") ∧
      (∃ networks, ∀ state ∈ [shootOnInternal, shootWithTwins, shootAfterTwins],
        state.HasNetworks networks) ∧
      ∃ before, Worker.find? shootOnInternal.spec.provider.workers "pool" = some before ∧
        ∀ worker ∈ shootAfterTwins.spec.provider.workers, worker.name = "pool" →
          before.zones <+: worker.zones := by
  have hcreated : shootOnInternal.Admitted none := ⟨rfl, rfl, lookupPoolsWithClasses, rfl⟩
  have htwins : shootWithTwins.Admitted (some shootOnInternal) :=
    ⟨rfl, rfl, lookupPoolsWithClasses, rfl⟩
  have hafter : shootAfterTwins.Admitted (some shootWithTwins) :=
    ⟨rfl, rfl, lookupPoolsWithClasses, rfl⟩
  have hhistory : History shootOnInternal [shootOnInternal, shootWithTwins] shootAfterTwins :=
    ((History.created hcreated).updated htwins).updated hafter
  have hpool : ∀ state ∈ [shootOnInternal, shootWithTwins, shootAfterTwins],
      state.HasPool "pool" := by
    intro state hstate
    simp only [List.mem_cons, List.not_mem_nil, or_false] at hstate
    rcases hstate with rfl | rfl | rfl
    · exact ⟨_, .head _, rfl⟩
    · exact ⟨_, .tail _ (.head _), rfl⟩
    · exact ⟨_, .head _, rfl⟩
  obtain ⟨hnetworks, hzones⟩ := kept_of_history hhistory
  exact ⟨hhistory, hpool, hnetworks, hzones (List.cons_ne_nil _ _) "pool" hpool⟩

end Shoot

end OpenstackAdmission
