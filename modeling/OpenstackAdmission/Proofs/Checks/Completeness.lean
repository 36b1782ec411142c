import Mathlib.Algebra.GroupWithZero.Nat
import Mathlib.Data.List.Forall2
import Mathlib.Data.List.Sort
import OpenstackAdmission.Proofs.Checks.ProviderImage

/-!
# Flavors without an image in a region

All flavors of a version are to be mapped in the same regions. A flavor that lacks a region which another one has is
told so, and every such gap is an error of its own.

> `checkComplete_exact`: the errors are the gaps, in the order of the flavors and then of the names of the regions.

The regions are a set and the flavors a list. What is repeated or stands in another place changes the errors, but not
how many there are. Regions without a name are left out on both sides.
-/

namespace OpenstackAdmission

/-- Both flavors are mapped in the same named regions, whatever the order and however often. -/
def ProviderFlavor.SameRegions (f g : ProviderFlavor) : Prop :=
  ∀ region, region ≠ "" → (f.Maps region ↔ g.Maps region)

namespace ProviderImageVersion

/-- The flavor at an index has no image in a region where some flavor of the version has one. -/
structure Lacks (v : ProviderImageVersion) (k : Nat) (region : String) : Prop where
  named : region ≠ ""
  elsewhere : ∃ flavor ∈ v.capabilityFlavors, flavor.Maps region
  here : ∃ flavor, v.capabilityFlavors[k]? = some flavor ∧ ¬ flavor.Maps region

/-- Gaps of one flavor stand before those of the next, and regions ascend. -/
def GapBefore (a b : Nat × String) : Prop := a.1 < b.1 ∨ a.1 = b.1 ∧ a.2 < b.2

/-- The error for a gap; `path` leads to the flavors of the version. -/
def gapError (v : ProviderImageVersion) (path : FieldPath) (gap : Nat × String) : FieldError :=
  .required ((path.index gap.1).child "regions")
    ("must provide an image for region " ++ Text.quoted gap.2
      ++ ", which is covered by other capability flavors of version " ++ Text.quoted v.version)

/-- The flavors of the other version are these in some order, each mapped in the same regions. -/
def Rearranged (v other : ProviderImageVersion) : Prop :=
  ∃ flavors, flavors.Perm v.capabilityFlavors ∧
    List.Forall₂ ProviderFlavor.SameRegions flavors other.capabilityFlavors

/-! ## Gaps -/

/-- The regions of all flavors where one has no image. -/
def missingRegions (flavors : List ProviderFlavor) (flavor : ProviderFlavor) : List String :=
  (flavorRegions flavors).filter fun region => !flavor.regions.any (·.name = region)

/-- All gaps in order. -/
def gaps (flavors : List ProviderFlavor) : List (Nat × String) :=
  flavors.zipIdx.flatMap fun e => (missingRegions flavors e.1).map (Prod.mk e.2)

variable {v other : ProviderImageVersion} {flavors more : List ProviderFlavor}
  {flavor : ProviderFlavor} {path : FieldPath}

/-- The check is a walk through the flavors and, for each, through the regions that it has no image in.
These pairs are the gaps. -/
theorem checkComplete_eq_map_gaps :
    v.checkComplete path = (gaps v.capabilityFlavors).map (v.gapError path) := by
  unfold checkComplete checkEach gaps missingRegions
  rw [List.map_flatMap]
  simp only [List.map_map]
  rfl

/-- A region is missing from a flavor if some flavor of the version is mapped in it and this one is not. -/
theorem mem_missingRegions {region : String} :
    region ∈ missingRegions flavors flavor ↔
      region ∈ flavorRegions flavors ∧ ¬ flavor.Maps region := by
  unfold missingRegions ProviderFlavor.Maps
  rw [List.mem_filter]
  simp

/-- The list of gaps has all of them and nothing else. A gap refers to its flavor by the index, so equal
flavors have gaps of their own. -/
theorem mem_gaps_iff_lacks {k : Nat} {region : String} :
    (k, region) ∈ gaps v.capabilityFlavors ↔ v.Lacks k region := by
  unfold gaps
  simp only [List.mem_flatMap, List.mem_map, Prod.mk.injEq]
  constructor
  · rintro ⟨⟨flavor, i⟩, hflavor, _, hregion, rfl, rfl⟩
    obtain ⟨hmapped, hmissing⟩ := mem_missingRegions.mp hregion
    obtain ⟨hnamed, helsewhere⟩ := mem_flavorRegions.mp hmapped
    exact ⟨hnamed, helsewhere, flavor, List.mem_zipIdx_iff_getElem?.mp hflavor, hmissing⟩
  · rintro ⟨hnamed, helsewhere, flavor, hflavor, hmissing⟩
    have hregion : region ∈ missingRegions v.capabilityFlavors flavor :=
      mem_missingRegions.mpr ⟨mem_flavorRegions.mpr ⟨hnamed, helsewhere⟩, hmissing⟩
    exact ⟨(flavor, k), List.mem_zipIdx_iff_getElem?.mpr hflavor, region, hregion, rfl, rfl⟩

/-- No gap comes twice: indices ascend along the flavors, and the regions of one flavor are sorted without
repetition. -/
theorem pairwise_gaps (flavors : List ProviderFlavor) : (gaps flavors).Pairwise GapBefore := by
  unfold gaps
  rw [List.pairwise_flatMap]
  constructor
  · intro e _
    rw [List.pairwise_map]
    refine ((pairwise_ascending _).filter _).imp ?_
    intro a b hlt
    exact .inr ⟨rfl, hlt⟩
  · have hindices : (flavors.zipIdx.map Prod.snd).Pairwise (· < ·) := by
      rw [List.zipIdx_map_snd]
      exact List.pairwise_lt_range'
    refine (List.pairwise_map.mp hindices).imp ?_
    intro d e hlt a ha b hb
    obtain ⟨_, _, rfl⟩ := List.mem_map.mp ha
    obtain ⟨_, _, rfl⟩ := List.mem_map.mp hb
    exact .inl hlt

/-- Flavors have a gap unless all of them have the same regions. -/
theorem checkComplete_eq_nil_iff :
    v.checkComplete path = [] ↔
      ∀ f ∈ v.capabilityFlavors, ∀ g ∈ v.capabilityFlavors, f.SameRegions g := by
  constructor
  · intro h f hf g hg region hnamed
    exact ⟨maps_of_checkComplete h hg hf hnamed, maps_of_checkComplete h hf hg hnamed⟩
  · intro hsame
    rw [checkComplete_eq_map_gaps, List.map_eq_nil_iff, List.eq_nil_iff_forall_not_mem]
    rintro ⟨k, region⟩ hgap
    obtain ⟨hnamed, ⟨f, hf, hmaps⟩, g, hg, hmissing⟩ := mem_gaps_iff_lacks.mp hgap
    exact hmissing ((hsame f hf g (List.mem_of_getElem? hg) region hnamed).mp hmaps)

/-! ## How many -/

/-- Gaps are counted flavor by flavor. Indices do not matter here, and a permutation of the flavors becomes
one of the summands. -/
theorem length_gaps (flavors : List ProviderFlavor) :
    (gaps flavors).length = (flavors.map fun f => (missingRegions flavors f).length).sum := by
  have hindices (size : ProviderFlavor → Nat) :
      flavors.zipIdx.map (fun e => size e.1) = flavors.map size :=
    calc flavors.zipIdx.map (fun e => size e.1)
        = (flavors.zipIdx.map Prod.fst).map size := List.map_map.symm
      _ = flavors.map size := by rw [List.zipIdx_map_fst]
  unfold gaps
  rw [List.length_flatMap]
  simp only [List.length_map]
  rw [hindices fun f => (missingRegions flavors f).length]

/-- Regions that are mapped by some flavor, for both lists of flavors. -/
theorem flavorRegions_eq
    (h : ∀ region, region ≠ "" →
      ((∃ f ∈ flavors, f.Maps region) ↔ ∃ f ∈ more, f.Maps region)) :
    flavorRegions flavors = flavorRegions more := by
  apply List.Subset.antisymm_of_pairwise (pairwise_ascending _) (pairwise_ascending _)
  · intro region hregion
    obtain ⟨hnamed, hmaps⟩ := mem_flavorRegions.mp hregion
    exact mem_flavorRegions.mpr ⟨hnamed, (h region hnamed).mp hmaps⟩
  · intro region hregion
    obtain ⟨hnamed, hmaps⟩ := mem_flavorRegions.mp hregion
    exact mem_flavorRegions.mpr ⟨hnamed, (h region hnamed).mpr hmaps⟩

/-- What a flavor lacks depends on its regions and on the regions of all. -/
theorem missingRegions_eq {f g : ProviderFlavor} (hall : flavorRegions flavors = flavorRegions more)
    (h : f.SameRegions g) : missingRegions flavors f = missingRegions more g := by
  unfold missingRegions
  rw [hall]
  -- only named regions are left to compare, and there the flavors agree
  apply List.filter_congr
  intro region hregion
  have hnamed := (mem_flavorRegions.mp hregion).1
  have hiff : f.regions.any (·.name = region) = true ↔ g.regions.any (·.name = region) = true := by
    simpa [ProviderFlavor.Maps] using h region hnamed
  rw [Bool.eq_iff_iff.mpr hiff]

/-- Flavors in another order have the same regions in total, so each of them lacks as many as before. -/
theorem length_gaps_of_perm (h : flavors.Perm more) : (gaps flavors).length = (gaps more).length := by
  have hall : flavorRegions flavors = flavorRegions more :=
    flavorRegions_eq fun _ _ => by simp only [h.mem_iff]
  have hsizes : (fun f => (missingRegions flavors f).length) =
      fun f => (missingRegions more f).length := by
    funext f
    rw [missingRegions_eq hall fun _ _ => Iff.rfl]
  rw [length_gaps, length_gaps, hsizes]
  exact (h.map _).sum_nat

/-- Flavors that are replaced, each by one with the same regions. -/
theorem length_gaps_of_sameRegions (h : List.Forall₂ ProviderFlavor.SameRegions flavors more) :
    (gaps flavors).length = (gaps more).length := by
  have hall : flavorRegions flavors = flavorRegions more := by
    refine flavorRegions_eq fun region hnamed => ?_
    induction h with
    | nil => rfl
    | cons hsame _ ih => simp only [List.exists_mem_cons_iff, ih, hsame region hnamed]
  have hsizes : flavors.map (fun f => (missingRegions flavors f).length) =
      more.map fun f => (missingRegions more f).length := by
    rw [← List.forall₂_eq_eq_eq]
    exact List.rel_map (fun f g hsame => by rw [missingRegions_eq hall hsame]) h
  rw [length_gaps, length_gaps, hsizes]

/-- Both changes together: first the flavors change places, and then each is replaced by one with the same
regions. -/
theorem length_gaps_of_rearranged (h : v.Rearranged other) :
    (gaps other.capabilityFlavors).length = (gaps v.capabilityFlavors).length := by
  obtain ⟨flavors, hperm, hsame⟩ := h
  rw [← length_gaps_of_perm hperm, length_gaps_of_sameRegions hsame]

/-- **The errors of incomplete flavors are the gaps**, each once, by flavor and then by region. There are none exactly
if all flavors have the same regions, and as many if flavors and regions stand in another order or are repeated. -/
theorem checkComplete_exact (v : ProviderImageVersion) (path : FieldPath) :
    (∃ gaps : List (Nat × String), gaps.Pairwise GapBefore ∧
        (∀ k region, (k, region) ∈ gaps ↔ v.Lacks k region) ∧
        v.checkComplete (path.child "capabilityFlavors") =
          gaps.map (v.gapError (path.child "capabilityFlavors"))) ∧
      (v.checkComplete (path.child "capabilityFlavors") = [] ↔
        ∀ f ∈ v.capabilityFlavors, ∀ g ∈ v.capabilityFlavors, f.SameRegions g) ∧
      ∀ other, v.Rearranged other → ∀ otherPath,
        (other.checkComplete otherPath).length =
          (v.checkComplete (path.child "capabilityFlavors")).length := by
  refine ⟨⟨gaps v.capabilityFlavors, pairwise_gaps _, fun k region => mem_gaps_iff_lacks,
    checkComplete_eq_map_gaps⟩, checkComplete_eq_nil_iff, ?_⟩
  intro other hother otherPath
  rw [checkComplete_eq_map_gaps, checkComplete_eq_map_gaps, List.length_map, List.length_map]
  exact length_gaps_of_rearranged hother

/-! Three flavors, one without any region and one with a region that has no name. -/

def flavorIn (regions : List String) : ProviderFlavor where
  capabilities := Dict.empty
  regions := regions.map fun name => { name, id := "1", architecture := none }
  image := ""

def versionOfFlavors (capabilityFlavors : List ProviderFlavor) : ProviderImageVersion where
  version := "22.04"
  image := ""
  regions := []
  capabilityFlavors := capabilityFlavors

def versionWithGaps : ProviderImageVersion :=
  versionOfFlavors [flavorIn ["us", "eu"], flavorIn [], flavorIn ["", "us"]]

def versionWithGapsRearranged : ProviderImageVersion :=
  versionOfFlavors [flavorIn ["us"], flavorIn ["eu", "us", "eu"], flavorIn [""]]

/-- A flavor of the example is mapped exactly where it is said to be. -/
theorem maps_flavorIn {regions : List String} {region : String} :
    (flavorIn regions).Maps region ↔ region ∈ regions := by
  unfold ProviderFlavor.Maps flavorIn
  simp

/-- Three gaps: the second flavor lacks both named regions, the third one lacks one. The version that has
its flavors in another order, with a region stated twice, has three as well. -/
theorem checkComplete_versionWithGaps :
    versionWithGaps.Rearranged versionWithGapsRearranged ∧
      versionWithGaps.checkComplete ((FieldPath.root "version").child "capabilityFlavors") =
        [(1, "eu"), (1, "us"), (2, "eu")].map
          (versionWithGaps.gapError ((FieldPath.root "version").child "capabilityFlavors")) ∧
      (versionWithGapsRearranged.checkComplete (.root "flavors")).length = 3 := by
  have hrearranged : versionWithGaps.Rearranged versionWithGapsRearranged := by
    refine ⟨[flavorIn ["", "us"], flavorIn ["us", "eu"], flavorIn []], by decide,
      .cons ?_ (.cons ?_ (.cons ?_ .nil))⟩
    all_goals
      intro region hnamed
      simp [maps_flavorIn, hnamed, or_comm]
  have hgaps : versionWithGaps.checkComplete ((FieldPath.root "version").child "capabilityFlavors") =
      [(1, "eu"), (1, "us"), (2, "eu")].map
        (versionWithGaps.gapError ((FieldPath.root "version").child "capabilityFlavors")) := by
    rfl
  refine ⟨hrearranged, hgaps, ?_⟩
  rw [(checkComplete_exact versionWithGaps (.root "version")).2.2 _ hrearranged (.root "flavors"), hgaps]
  rfl

end ProviderImageVersion

end OpenstackAdmission
