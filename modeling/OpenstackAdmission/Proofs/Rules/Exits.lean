import OpenstackAdmission.Proofs.Rules.Axes

/-!
# Where a rule is found

The search of the constraining rules ends in one of six places. `FoundIn` names them, each with what the search
has learned on its way: which scopes have no match, and whether both axes have rules. Every success is one of
the six (`foundIn_of_resolveConstrained`), so that what holds of a found rule is shown place by place.
-/

namespace OpenstackAdmission

open ScopedRule

variable {ρ : Type} [ScopedRule ρ]

/-- The place where the search of the constraining rules finds a rule. -/
inductive FoundIn (rules : List ρ) (q : Query) (requested : String) (rule : ρ) : Prop
  | inExact (best : IsBest requested (exactRules rules q) rule)
  | inRegion (noExact : Unmatched requested (ruleNames (exactRules rules q)))
      (free : ¬ BothAxes rules q) (best : IsBest requested (regionRules rules q) rule)
  | inDomain (noExact : Unmatched requested (ruleNames (exactRules rules q)))
      (free : ¬ BothAxes rules q) (best : IsBest requested (domainRules rules q) rule)
  | inEverywhere (noExact : Unmatched requested (ruleNames (exactRules rules q)))
      (free : ¬ BothAxes rules q)
      (noRegion : Unmatched requested (ruleNames (regionRules rules q)))
      (noDomain : Unmatched requested (ruleNames (domainRules rules q)))
      (best : IsBest requested (Scope.everywhere.rules rules) rule)
  /-- The best rules of both axes have one name. -/
  | byAgreement (noExact : Unmatched requested (ruleNames (exactRules rules q)))
      (both : BothAxes rules q) (shared : name rule ∈ sharedNames rules q)
      (best : IsBest requested (regionRules rules q) rule)
  | inShared (noExact : Unmatched requested (ruleNames (exactRules rules q)))
      (both : BothAxes rules q) (best : IsBest requested (sharedRules rules q) rule)

variable {rules : List ρ} {q : Query} {rule : ρ} {requested : String}

/-- The last search of the constraining rules has no search behind it, so that what it finds is the best of
the rules for everything. -/
theorem isBest_of_resolveEverywhere {searched : List String}
    (h : resolveEverywhere rules requested searched = .ok rule) :
    IsBest requested (Scope.everywhere.rules rules) rule := by
  obtain hbest | ⟨-, herror⟩ := searchThen_eq_ok_iff.mp h
  · exact isBest_of_bestRule hbest
  · cases herror

/-- What the search of the constraining rules can do when it succeeds. -/
theorem foundIn_of_resolveConstrained (h : resolveConstrained rules q requested = .ok rule) :
    FoundIn rules q requested rule := by
  by_cases hboth : BothAxes rules q
  · obtain ⟨d, hd⟩ := hboth.domain_isSome
    rw [resolveConstrained_of_bothAxes hboth hd] at h
    obtain hbest | ⟨noExact, h⟩ := searchThen_eq_ok_iff.mp h
    · exact .inExact (isBest_of_bestRule hbest)
    · obtain ⟨hbest, hname⟩ | hbest := resolveBoth_eq_ok hd h
      · exact .byAgreement noExact hboth hname (isBest_of_bestRule hbest)
      · exact .inShared noExact hboth (isBest_of_bestRule hbest)
  · rw [resolveConstrained_of_free hboth] at h
    obtain hbest | ⟨noExact, h⟩ := searchThen_eq_ok_iff.mp h
    · exact .inExact (isBest_of_bestRule hbest)
    obtain hbest | ⟨noRegion, h⟩ := searchThen_eq_ok_iff.mp h
    · exact .inRegion noExact hboth (isBest_of_bestRule hbest)
    obtain hbest | ⟨noDomain, h⟩ := searchThen_eq_ok_iff.mp h
    · exact .inDomain noExact hboth (isBest_of_bestRule hbest)
    · exact .inEverywhere noExact hboth noRegion noDomain (isBest_of_resolveEverywhere h)

namespace FoundIn

/-- A found rule stands in one of the four scopes of the request. -/
theorem mem_scopes (h : FoundIn rules q requested rule) :
    rule ∈ exactRules rules q ∨ rule ∈ regionRules rules q ∨ rule ∈ domainRules rules q ∨
      rule ∈ Scope.everywhere.rules rules := by
  cases h with
  | inExact best => exact .inl best.mem
  | inRegion _ _ best => exact .inr (.inl best.mem)
  | inDomain _ _ best => exact .inr (.inr (.inl best.mem))
  | inEverywhere _ _ _ _ best => exact .inr (.inr (.inr best.mem))
  | byAgreement _ _ _ best => exact .inr (.inl best.mem)
  | inShared _ _ best =>
    rcases (mem_sharedRules.mp best.mem).1 with hr | hd
    · exact .inr (.inl hr)
    · exact .inr (.inr (.inl hd))

/-- Whichever search found a rule, the rule matches the requested name. -/
theorem hit (h : FoundIn rules q requested rule) : (matchScore? (name rule) requested).isSome := by
  cases h with
  | inExact best => exact best.hit
  | inRegion _ _ best => exact best.hit
  | inDomain _ _ best => exact best.hit
  | inEverywhere _ _ _ _ best => exact best.hit
  | byAgreement _ _ _ best => exact best.hit
  | inShared _ _ best => exact best.hit

end FoundIn

end OpenstackAdmission
