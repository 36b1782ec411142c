import OpenstackAdmission.Checks.ControlPlane
import OpenstackAdmission.Proofs.Rules.Exits

/-!
# Supported names

A refusal lists the names that could have been admitted. The list is the same for every name that is refused:
`supportedNames` depends on the rules and the request alone. And it is complete: a resolution fails exactly if
none of the listed names matches.

> `resolve_eq_error_iff`: a resolution is refused with `supportedNames`, and only if none of them matches.

> `name_mem_supportedNames`: a rule that is found has its name among them.

> `admissionSet_of_resolve_eq_error`: what a refusal lists is the whole language of the request.
-/

namespace OpenstackAdmission

open ScopedRule

variable {ρ : Type} [ScopedRule ρ]

/-- The names that a search of the constraining rules goes through before it gives up. -/
def searchedNames (rules : List ρ) (q : Query) : List String :=
  ruleNames (exactRules rules q) ++
    if (regionRules rules q).isEmpty || (domainRules rules q).isEmpty then
      ruleNames (regionRules rules q) ++ ruleNames (domainRules rules q)
        ++ ruleNames (Scope.everywhere.rules rules)
    else sharedNames rules q

/-- The names that are supported for a request, ascending. -/
def supportedNames (rules : List ρ) (q : Query) : List String :=
  ascending (searchedNames rules q ++ ruleNames (additionalRules rules q))

/-- The language of a request: these names and what they match are accepted, and nothing else. -/
structure AdmissionSet (rules : List ρ) (q : Query) (supported : List String) : Prop where
  ascends : supported.Pairwise (· < ·)
  accepts_iff : ∀ requested, (∃ rule, resolve rules q requested = .ok rule) ↔
    ∃ v ∈ supported, (matchScore? v requested).isSome
  lists_found : ∀ requested rule, resolve rules q requested = .ok rule → name rule ∈ supported
  lists_same : ∀ requested other, resolve rules q requested = .error other → other = supported
  /-- Wherever the name stands, a refusal is one error there, with this list. -/
  reports : ∀ requested path, (¬ ∃ rule, resolve rules q requested = .ok rule) →
    checkResolves rules q requested path = [⟨path, .notSupported (.str requested) supported⟩]
  accepts_listed : ∀ v ∈ supported, ∃ rule, resolve rules q v = .ok rule

variable {rules : List ρ} {q : Query} {rule : ρ} {requested : String}

/-! ## The constraining rules -/

/-- The names that are searched for a request, if not both axes have rules: those of all four scopes, from
the narrowest on. -/
theorem searchedNames_of_free (h : ¬ BothAxes rules q) :
    searchedNames rules q =
      ruleNames (exactRules rules q) ++ (ruleNames (regionRules rules q)
        ++ ruleNames (domainRules rules q) ++ ruleNames (Scope.everywhere.rules rules)) := by
  unfold searchedNames
  rw [if_pos]
  rw [Bool.or_eq_true, List.isEmpty_iff, List.isEmpty_iff]
  exact Decidable.or_iff_not_not_and_not.mpr h

/-- The names that are searched, if both axes have rules: those of the narrowest scope and those that both
axes have. -/
theorem searchedNames_of_bothAxes (h : BothAxes rules q) :
    searchedNames rules q = ruleNames (exactRules rules q) ++ sharedNames rules q := by
  unfold searchedNames
  rw [if_neg]
  rw [Bool.or_eq_true, List.isEmpty_iff, List.isEmpty_iff]
  rintro (hr | hd)
  · exact h.1 hr
  · exact h.2 hd

/-- The last search fails exactly if no rule for everything matches, and then its names close the list. -/
theorem resolveEverywhere_eq_error_iff {searched supported : List String} :
    resolveEverywhere rules requested searched = .error supported ↔
      Unmatched requested (ruleNames (Scope.everywhere.rules rules)) ∧
        searched ++ ruleNames (Scope.everywhere.rules rules) = supported := by
  unfold resolveEverywhere
  rw [searchThen_eq_error_iff, Except.error.injEq]

/-- The constraining rules refuse a name exactly if none of the names they are searched under matches it, and
they list these names. -/
theorem resolveConstrained_eq_error_iff {supported : List String} :
    resolveConstrained rules q requested = .error supported ↔
      Unmatched requested (searchedNames rules q) ∧ searchedNames rules q = supported := by
  by_cases h : BothAxes rules q
  · obtain ⟨d, hd⟩ := h.domain_isSome
    rw [resolveConstrained_of_bothAxes h hd, searchThen_eq_error_iff,
      resolveBoth_eq_error_iff hd, searchedNames_of_bothAxes h, unmatched_append, List.nil_append,
      and_assoc]
  · rw [resolveConstrained_of_free h, searchedNames_of_free h]
    simp only [searchThen_eq_error_iff, resolveEverywhere_eq_error_iff, unmatched_append,
      and_assoc, List.nil_append, List.append_assoc]

/-- The name of a rule of a searched list is searched. -/
theorem name_mem_searchedNames (h : FoundIn rules q requested rule) :
    name rule ∈ searchedNames rules q := by
  -- the lists of a search with one axis are joined in the order in which it takes them
  cases h with
  | inExact best =>
    exact List.mem_append_left _ (mem_ruleNames.mpr ⟨rule, best.mem, rfl⟩)
  | inRegion _ free best =>
    rw [searchedNames_of_free free]
    simp only [List.mem_append]
    exact .inr (.inl (.inl (mem_ruleNames.mpr ⟨rule, best.mem, rfl⟩)))
  | inDomain _ free best =>
    rw [searchedNames_of_free free]
    simp only [List.mem_append]
    exact .inr (.inl (.inr (mem_ruleNames.mpr ⟨rule, best.mem, rfl⟩)))
  | inEverywhere _ free _ _ best =>
    rw [searchedNames_of_free free]
    simp only [List.mem_append]
    exact .inr (.inr (mem_ruleNames.mpr ⟨rule, best.mem, rfl⟩))
  | byAgreement _ both shared _ =>
    rw [searchedNames_of_bothAxes both]
    exact List.mem_append_right _ shared
  | inShared _ both best =>
    rw [searchedNames_of_bothAxes both]
    exact List.mem_append_right _ (mem_sharedRules.mp best.mem).2

/-! ## All rules -/

/-- A name is supported if it was searched among the constraining rules, or an additional rule has it. -/
theorem mem_supportedNames {v : String} :
    v ∈ supportedNames rules q ↔
      v ∈ searchedNames rules q ∨ v ∈ ruleNames (additionalRules rules q) := by
  unfold supportedNames
  rw [mem_ascending, List.mem_append]

/-- A request that matches no supported name is refused by both parts of the search. -/
theorem unmatched_supportedNames :
    Unmatched requested (supportedNames rules q) ↔
      Unmatched requested (searchedNames rules q) ∧
        Unmatched requested (ruleNames (additionalRules rules q)) := by
  rw [← unmatched_append]
  exact unmatched_congr fun v => mem_ascending

/-- A rule is found among the constraining ones, or where they all fail, among the others. -/
theorem resolve_eq_ok (h : resolve rules q requested = .ok rule) :
    FoundIn rules q requested rule ∨
      Unmatched requested (searchedNames rules q) ∧
        IsBest requested (additionalRules rules q) rule := by
  unfold resolve at h
  cases hc : resolveConstrained rules q requested with
  | ok found =>
    rw [hc] at h
    obtain rfl := Except.ok.inj h
    exact .inl (foundIn_of_resolveConstrained hc)
  | error searched =>
    rw [hc] at h
    dsimp only at h
    obtain ⟨hnone, -⟩ := resolveConstrained_eq_error_iff.mp hc
    cases ha : searchThen requested (additionalRules rules q) searched .error with
    | error names => rw [ha] at h; cases h
    | ok found =>
      rw [ha] at h
      obtain rfl := Except.ok.inj h
      obtain hbest | ⟨-, herror⟩ := searchThen_eq_ok_iff.mp ha
      · exact .inr ⟨hnone, isBest_of_bestRule hbest⟩
      · cases herror

/-- **A refusal does not depend on the refused name**, except that none of the supported names matches it. -/
theorem resolve_eq_error_iff {supported : List String} :
    resolve rules q requested = .error supported ↔
      Unmatched requested (supportedNames rules q) ∧ supportedNames rules q = supported := by
  rw [unmatched_supportedNames]
  unfold resolve
  -- additional rules are searched only where the constraining ones have refused
  cases hc : resolveConstrained rules q requested with
  | ok found =>
    have hmatched : ¬ Unmatched requested (searchedNames rules q) := by
      intro hnone
      rw [resolveConstrained_eq_error_iff.mpr ⟨hnone, rfl⟩] at hc
      cases hc
    simp [hmatched]
  | error searched =>
    obtain ⟨hnone, rfl⟩ := resolveConstrained_eq_error_iff.mp hc
    dsimp only
    cases ha : searchThen requested (additionalRules rules q) (searchedNames rules q) .error with
    | ok found =>
      have hmatched : ¬ Unmatched requested (ruleNames (additionalRules rules q)) := by
        intro hrest
        rw [searchThen_eq_error_iff.mpr ⟨hrest, rfl⟩] at ha
        cases ha
      simp [hmatched]
    | error names =>
      obtain ⟨hrest, hnames⟩ := searchThen_eq_error_iff.mp ha
      obtain rfl := Except.error.inj hnames
      simp [hnone, hrest, supportedNames]

/-- A rule that is found has a supported name, which matches. -/
theorem name_mem_supportedNames (h : resolve rules q requested = .ok rule) :
    name rule ∈ supportedNames rules q := by
  rw [mem_supportedNames]
  obtain hfound | ⟨-, best⟩ := resolve_eq_ok h
  · exact .inl (name_mem_searchedNames hfound)
  · exact .inr (mem_ruleNames.mpr ⟨rule, best.mem, rfl⟩)

/-- **A name is accepted exactly if a supported name matches it.** No order of searches is left in this
statement. -/
theorem exists_resolve_iff :
    (∃ rule, resolve rules q requested = .ok rule) ↔
      ∃ v ∈ supportedNames rules q, (matchScore? v requested).isSome := by
  rw [← not_unmatched_iff]
  cases h : resolve rules q requested with
  | ok rule =>
    refine iff_of_true ⟨rule, rfl⟩ fun hnone => ?_
    rw [resolve_eq_error_iff.mpr ⟨hnone, rfl⟩] at h
    cases h
  | error supported =>
    refine iff_of_false ?_ (not_not_intro (resolve_eq_error_iff.mp h).1)
    rintro ⟨rule, hrule⟩
    cases hrule

/-- Where a lookup is refused, the check has one error, which lists what would have been supported. -/
theorem checkResolves_of_error {supported : List String}
    (h : resolve rules q requested = .error supported) (path : FieldPath) :
    checkResolves rules q requested path = [⟨path, .notSupported (.str requested) supported⟩] := by
  obtain ⟨-, rfl⟩ := resolve_eq_error_iff.mp h
  unfold checkResolves
  rw [h]
  show [FieldError.notSupported path (.str requested) (supportedNames rules q)] = _
  unfold FieldError.notSupported
  have hascends : (supportedNames rules q).Pairwise (· < ·) := pairwise_ascending _
  rw [ascending_of_pairwise hascends]

/-- **What a refusal lists is the language of the request**: these names ascend, they and what they match are
accepted under the same rules and request, all else is refused with the same list, and every rule that is
found is listed. -/
theorem admissionSet_of_resolve_eq_error {supported : List String}
    (h : resolve rules q requested = .error supported) : AdmissionSet rules q supported := by
  obtain ⟨-, rfl⟩ := resolve_eq_error_iff.mp h
  refine
    { ascends := pairwise_ascending _
      accepts_iff := fun _ => exists_resolve_iff
      lists_found := fun _ _ => name_mem_supportedNames
      lists_same := fun _ _ hother => (resolve_eq_error_iff.mp hother).2.symm
      reports := ?_
      accepts_listed := ?_ }
  · intro other path hnone
    refine checkResolves_of_error (resolve_eq_error_iff.mpr ⟨?_, rfl⟩) path
    refine Decidable.byContradiction fun hmatched => hnone ?_
    exact exists_resolve_iff.mpr (not_unmatched_iff.mp hmatched)
  · intro v hv
    refine exists_resolve_iff.mpr ⟨v, hv, ?_⟩
    rw [matchScore?_self]
    rfl

/-- A region and a domain that share one wildcard, beside a pool for everything, which is not reached, and one
that does not constrain. -/
def poolsOnBothAxes : List FloatingPool := [
  ⟨"fip-*", some "r1", none, none, none, []⟩,
  ⟨"fip-eu*", none, some "d1", none, none, []⟩,
  ⟨"fip-*", none, some "d1", none, none, []⟩,
  ⟨"global", none, none, none, none, []⟩,
  ⟨"extra", none, some "d1", none, some true, []⟩]

/-- The pool for everything is refused there, and the refusal lists the shared wildcard and the pool that does
not constrain. -/
theorem admissionSet_poolsOnBothAxes :
    resolve poolsOnBothAxes ⟨"r1", some "d1"⟩ "global" = .error ["extra", "fip-*"] ∧
      AdmissionSet poolsOnBothAxes ⟨"r1", some "d1"⟩ ["extra", "fip-*"] :=
  have h : resolve poolsOnBothAxes ⟨"r1", some "d1"⟩ "global" = .error ["extra", "fip-*"] := rfl
  ⟨h, admissionSet_of_resolve_eq_error h⟩

end OpenstackAdmission
