import Mathlib.Data.List.Perm.Subperm
import OpenstackAdmission.Checks.CloudProfile
import OpenstackAdmission.Checks.ControlPlane
import OpenstackAdmission.Proofs.Admission.LoadBalancerClasses

/-!
# Sets of load balancer classes

A floating pool lists the classes that it has, and a control plane those that it wants. Both lists are checked as
sets by the same check: each class on its own, and then that no two of them are in each other's way.

> `checkAll_iff_compatible`: the check finds nothing exactly if the classes are compatible. So a control plane may
select among the classes of an accepted pool as it likes.

Compatibility is about single classes and pairs of them, and the pairs may be taken in either order. This is why it
passes on to every selection. A class may be named after one purpose and state another one: it counts for both.
-/

namespace OpenstackAdmission

namespace LoadBalancerClass

/-- The class serves a purpose because of its name or because it says so. -/
def ActsAs (c : LoadBalancerClass) (purpose : String) : Prop :=
  c.name = purpose ∨ c.purpose = some purpose

/-- The class chooses its floating subnet in one way, if at all. -/
structure ChoosesOnce (c : LoadBalancerClass) : Prop where
  byIdOrName : c.floatingSubnetID = none ∨ c.floatingSubnetName = none
  byIdOrTags : c.floatingSubnetID = none ∨ c.floatingSubnetTags = none
  byNameOrTags : c.floatingSubnetName = none ∨ c.floatingSubnetTags = none

/-- Classes that may stand in one list. -/
structure Compatible (classes : List LoadBalancerClass) : Prop where
  names : (classes.map LoadBalancerClass.name).Nodup
  purposes : ∀ c ∈ classes, ∀ purpose, c.purpose = some purpose →
    purpose ∈ ["default", "private", "vpn"]
  selectors : ∀ c ∈ classes, c.ChoosesOnce
  standard : classes.Pairwise fun a b => ¬ (a.ActsAs "default" ∧ b.ActsAs "default")
  priv : classes.Pairwise fun a b => ¬ (a.ActsAs "private" ∧ b.ActsAs "private")

variable {c : LoadBalancerClass} {classes selection : List LoadBalancerClass} {path : FieldPath}

/-! ## One class -/

/-- A class serves a purpose for either of two reasons, and the check asks for both at once. -/
theorem hasPurpose_iff {p : LoadBalancerPurpose} : c.hasPurpose p = true ↔ c.ActsAs p.word := by
  unfold hasPurpose ActsAs
  rw [Bool.or_eq_true, decide_eq_true_eq, decide_eq_true_eq]

/-- No purpose is unknown if there is none, or if it is one of the three words. The empty text is a purpose
that is unknown. -/
theorem unknownPurpose?_eq_none_iff :
    c.unknownPurpose? = none ↔
      ∀ purpose, c.purpose = some purpose → purpose ∈ ["default", "private", "vpn"] := by
  have hwords : LoadBalancerPurpose.all.map LoadBalancerPurpose.word =
      ["default", "private", "vpn"] := rfl
  unfold unknownPurpose?
  rw [hwords, Option.filter_eq_none_iff]
  simp only [Bool.not_eq_true', Bool.not_eq_false, List.contains_iff_mem]

/-- Counting the three ways to choose a subnet up to one says of each pair that one of the two is missing.
-/
theorem subnetSelectorCount_le_one_iff : c.subnetSelectorCount ≤ 1 ↔ c.ChoosesOnce := by
  have hparts : c.ChoosesOnce ↔ (c.floatingSubnetID = none ∨ c.floatingSubnetName = none) ∧
      (c.floatingSubnetID = none ∨ c.floatingSubnetTags = none) ∧
      (c.floatingSubnetName = none ∨ c.floatingSubnetTags = none) :=
    ⟨fun h => ⟨h.byIdOrName, h.byIdOrTags, h.byNameOrTags⟩, fun h => ⟨h.1, h.2.1, h.2.2⟩⟩
  unfold subnetSelectorCount
  rw [hparts]
  cases c.floatingSubnetID <;> cases c.floatingSubnetName <;> cases c.floatingSubnetTags <;> simp

/-- One class on its own: it states a purpose that is known, and chooses its subnet in one way at most. -/
theorem check_eq_nil_iff :
    c.check path = [] ↔
      (∀ purpose, c.purpose = some purpose → purpose ∈ ["default", "private", "vpn"]) ∧
        c.ChoosesOnce := by
  unfold check
  rw [List.append_eq_nil_iff, errorIf_eq_nil_iff, decide_eq_false_iff_not, Nat.not_lt,
    subnetSelectorCount_le_one_iff, ← unknownPurpose?_eq_none_iff]
  refine and_congr_left fun _ => ?_
  cases c.unknownPurpose? <;> simp

/-! ## Classes as a set -/

/-- At most one item is selected exactly if no two are. -/
theorem length_filter_le_one_iff {α : Type} {selects : α → Bool} {items : List α} :
    (items.filter selects).length ≤ 1 ↔
      items.Pairwise fun a b => ¬ (selects a = true ∧ selects b = true) := by
  have hlength (l : List α) : l.length ≤ 1 ↔ l.Pairwise fun _ _ => False := by
    cases l with
    | nil => simp
    | cons a rest =>
      cases rest with
      | nil => simp
      | cons b rest =>
        exact iff_of_false (by simp) fun h => List.rel_of_pairwise_cons h (List.mem_cons_self ..)
  simp only [hlength, List.pairwise_filter, not_and, imp_false]

/-- A purpose is taken by one class at most. The check counts the classes, which is the same as comparing
all pairs. -/
theorem checkPurpose_eq_nil_iff {p : LoadBalancerPurpose} :
    checkPurpose classes path p = [] ↔
      classes.Pairwise fun a b => ¬ (a.ActsAs p.word ∧ b.ActsAs p.word) := by
  unfold checkPurpose
  rw [errorIf_eq_nil_iff, decide_eq_false_iff_not, Nat.not_lt, length_filter_le_one_iff]
  simp only [hasPurpose_iff]

/-- The list is accepted exactly if it is compatible. Names are compared with earlier ones, so they differ
if none is repeated. -/
theorem checkAll_eq_nil_iff : checkAll classes path = [] ↔ Compatible classes := by
  have heach : checkEachAfter path classes (fun path earlier c =>
      errorIf (earlier.any (·.name = c.name)) (.duplicate (path.child "name") (.str c.name))
        ++ c.check path) = [] ↔
      (classes.map LoadBalancerClass.name).Nodup ∧ ∀ c ∈ classes,
        (∀ purpose, c.purpose = some purpose → purpose ∈ ["default", "private", "vpn"]) ∧
          c.ChoosesOnce := by
    unfold List.Nodup
    rw [List.pairwise_map]
    apply checkEachAfter_eq_nil_iff
    intro i earlier c
    rw [List.append_eq_nil_iff, check_eq_nil_iff, errorIf_eq_nil_iff, List.any_eq_false]
    simp only [decide_eq_true_eq, ne_eq]
  unfold checkAll
  rw [List.append_eq_nil_iff, heach]
  -- two purposes are compared between classes; the third one may be shared
  simp only [List.flatMap_cons, List.flatMap_nil, List.append_nil, List.append_eq_nil_iff,
    checkPurpose_eq_nil_iff, LoadBalancerPurpose.word]
  constructor
  · rintro ⟨⟨hnames, hown⟩, hstandard, hpriv⟩
    exact ⟨hnames, fun c hc => (hown c hc).1, fun c hc => (hown c hc).2, hstandard, hpriv⟩
  · intro h
    exact ⟨⟨h.names, fun c hc => ⟨h.purposes c hc, h.selectors c hc⟩⟩, h.standard, h.priv⟩

/-! ## Selections -/

/-- What no two of some items do, no two items of a selection do. -/
theorem pairwise_of_subperm {α : Type} {items selected : List α} {acts : α → Prop}
    (hselected : selected.Subperm items) (h : items.Pairwise fun a b => ¬ (acts a ∧ acts b)) :
    selected.Pairwise fun a b => ¬ (acts a ∧ acts b) := by
  obtain ⟨kept, hperm, hsublist⟩ := hselected
  -- which class of a pair comes first does not matter
  refine (hperm.pairwise_iff ?_).mp (h.sublist hsublist)
  intro a b hab hba
  exact hab hba.symm

/-- Classes are still compatible if some are left out and the others change places. Conditions on pairs of
them are symmetric. -/
theorem Compatible.of_subperm (hselected : selection.Subperm classes) (h : Compatible classes) :
    Compatible selection where
  names := by
    obtain ⟨kept, hperm, hsublist⟩ := hselected
    exact (hperm.map _).nodup_iff.mp (h.names.sublist (hsublist.map _))
  purposes c hc := h.purposes c (hselected.subset hc)
  selectors c hc := h.selectors c (hselected.subset hc)
  standard := pairwise_of_subperm hselected h.standard
  priv := pairwise_of_subperm hselected h.priv

end LoadBalancerClass

/-- What no two pools of a landscape have in common. -/
def FloatingPool.key (pool : FloatingPool) : String × Option String × Option String :=
  (pool.name, pool.region, pool.domain)

/-- Pools are accepted exactly if there are some, no two of them have the same key, and each states what it states and
has compatible classes. -/
theorem FloatingPool.checkAll_eq_nil_iff {pools : List FloatingPool} {path : FieldPath} :
    FloatingPool.checkAll pools path = [] ↔
      pools ≠ [] ∧ (pools.map FloatingPool.key).Nodup ∧
        ∀ pool ∈ pools, pool.name ≠ "" ∧ pool.region ≠ some "" ∧ pool.domain ≠ some "" ∧
          LoadBalancerClass.Compatible pool.loadBalancerClasses := by
  unfold FloatingPool.checkAll List.Nodup
  rw [List.append_eq_nil_iff, errorIf_eq_nil_iff, decide_eq_false_iff_not, List.pairwise_map]
  refine and_congr_right fun _ => checkEachAfter_eq_nil_iff ?_
  intro i earlier pool
  simp only [List.append_eq_nil_iff, errorIf_eq_nil_iff, decide_eq_false_iff_not, List.any_eq_false,
    Bool.and_eq_true, decide_eq_true_eq, LoadBalancerClass.checkAll_eq_nil_iff, ne_eq,
    FloatingPool.key, Prod.mk.injEq, and_assoc]
  tauto

namespace LoadBalancerClass

variable (classes : List LoadBalancerClass) (path : FieldPath)

/-- **Classes are accepted exactly if they are compatible.** The order does not matter then, and whatever is selected
from accepted classes is accepted, once each and in any order. Classes selected from an accepted pool give a control
plane no errors that it would not have without classes, neither on its own nor beside that pool. -/
theorem checkAll_iff_compatible :
    (checkAll classes path = [] ↔ Compatible classes) ∧
      (∀ other, other.Perm classes → ∀ otherPath,
        checkAll other otherPath = [] ↔ checkAll classes path = []) ∧
      (∀ selection, selection.Subperm classes → checkAll classes path = [] → ∀ otherPath,
        checkAll selection otherPath = []) ∧
      ∀ pools, FloatingPool.checkAll pools path = [] → ∀ pool ∈ pools,
        ∀ c : ControlPlaneConfig, c.loadBalancerClasses.Subperm pool.loadBalancerClasses →
          ∀ infrastructure otherPath,
            c.check infrastructure otherPath =
                { c with loadBalancerClasses := [] }.check infrastructure otherPath ∧
              ControlPlaneConfig.checkPoolClasses c.loadBalancerClasses pool otherPath = [] := by
  -- all of it is about compatibility, which does not know the order
  refine ⟨checkAll_eq_nil_iff, ?order, ?selection, ?pool⟩
  case order =>
    intro other hperm otherPath
    rw [checkAll_eq_nil_iff, checkAll_eq_nil_iff]
    exact ⟨.of_subperm hperm.symm.subperm, .of_subperm hperm.subperm⟩
  case selection =>
    intro selection hselected h otherPath
    exact checkAll_eq_nil_iff.mpr (.of_subperm hselected (checkAll_eq_nil_iff.mp h))
  case pool =>
    intro pools h pool hpool c hselected infrastructure otherPath
    obtain ⟨-, -, hpools⟩ := FloatingPool.checkAll_eq_nil_iff.mp h
    have hcompatible := (hpools pool hpool).2.2.2
    have hclasses : checkAll c.loadBalancerClasses (otherPath.child "loadBalancerClasses") = [] :=
      checkAll_eq_nil_iff.mpr (.of_subperm hselected hcompatible)
    constructor
    · unfold ControlPlaneConfig.check
      rw [hclasses]
      rfl
    · exact ControlPlaneConfig.checkPoolClasses_eq_nil_iff.mpr fun _ => hselected.subset

/-! Two of the three classes of a pool, the other way round. One class is both the default and the private one. -/

def poolWithThreeClasses : FloatingPool :=
  { poolWithClass "public" "default" with
    loadBalancerClasses := [
      { classNamed "default" with purpose := some "private" },
      { classNamed "inner" with purpose := some "vpn", floatingSubnetID := some "1" },
      { classNamed "outer" with purpose := some "vpn", floatingSubnetTags := some "dmz" }] }

def controlPlaneWithTwoClasses : ControlPlaneConfig :=
  { controlPlaneWithClass with
    loadBalancerClasses := [
      { classNamed "outer" with purpose := some "vpn", floatingSubnetTags := some "dmz" },
      { classNamed "default" with purpose := some "private" }] }

/-- The pool is accepted, and so the control plane is, on its own and beside the pool. -/
theorem checkAll_poolWithThreeClasses :
    FloatingPool.checkAll [poolWithThreeClasses] (.root "floatingPools") = [] ∧
      controlPlaneWithTwoClasses.loadBalancerClasses.Subperm
        poolWithThreeClasses.loadBalancerClasses ∧
      controlPlaneWithTwoClasses.check (infrastructureOn "public") (.root "controlPlane") = [] ∧
      ControlPlaneConfig.checkPoolClasses controlPlaneWithTwoClasses.loadBalancerClasses
        poolWithThreeClasses (.root "controlPlane") = [] := by
  have haccepted : FloatingPool.checkAll [poolWithThreeClasses] (.root "floatingPools") = [] := by
    rfl
  have hselected : controlPlaneWithTwoClasses.loadBalancerClasses.Subperm
      poolWithThreeClasses.loadBalancerClasses := by
    decide
  obtain ⟨hsame, hclasses⟩ :=
    (checkAll_iff_compatible poolWithThreeClasses.loadBalancerClasses (.root "floatingPools")).2.2.2
      [poolWithThreeClasses] haccepted _ (List.mem_singleton_self _) controlPlaneWithTwoClasses
      hselected (infrastructureOn "public") (.root "controlPlane")
  exact ⟨haccepted, hselected, hsame.trans rfl, hclasses⟩

end LoadBalancerClass

end OpenstackAdmission
