import OpenstackAdmission.Proofs.Rules.Order

/-!
# Agreement of both axes

Where both axes of a request have rules, there is a short way to the answer: if the best rules of both have one
name, the rule of the region answers, and the rules with shared names are not searched.

> `sharedSearch_of_bothAxes`: the short way ends where the search would. The search finds a rule too, and it has
this very name; without the short way, every request would get an answer of the same name, or the same refusal. The
request is admitted here exactly if a name that occurs on both axes matches.

The short way looks for maxima over all names of an axis, the search for one over a mixed list with fewer names.
Both meet because the common winner is never among those left out, because the region has a rule under every shared
name, so that none of them scores higher (`isBest_sharedRules`), and because rules with one score have one name
(`IsBest.name_eq`). The rule itself may be another one: the search prefers what is declared first.
-/

namespace OpenstackAdmission

open ScopedRule

variable {ρ : Type} [ScopedRule ρ]

/-- The search of the shared rules, which takes no short way; the names of the exact scope have been searched
before. -/
def searchShared (rules : List ρ) (q : Query) (requested : String) : Except (List String) ρ :=
  match bestRule requested (sharedRules rules q) with
  | some rule => .ok rule
  | none => .error (ruleNames (exactRules rules q) ++ sharedNames rules q)

/-- The short way and the search of the shared rules are one. -/
structure SharedSearch (rules : List ρ) (q : Query) (requested : String) : Prop where
  /-- Where the best rules of both axes have one name, the search finds a rule of this name. -/
  shortcut : ∀ ofRegion ofDomain, bestRule requested (regionRules rules q) = some ofRegion →
    bestRule requested (domainRules rules q) = some ofDomain → name ofRegion = name ofDomain →
      ∃ found, bestRule requested (sharedRules rules q) = some found ∧ name found = name ofRegion
  /-- Whether the short way is taken or not, names and refusals are those of the search. -/
  answer : (resolveConstrained rules q requested).map name = (searchShared rules q requested).map name
  admitted_iff : (∃ rule, resolveConstrained rules q requested = .ok rule) ↔
    ∃ v, v ∈ ruleNames (regionRules rules q) ∧ v ∈ ruleNames (domainRules rules q) ∧
      (matchScore? v requested).isSome

variable {rules : List ρ} {q : Query} {requested : String} {ofRegion ofDomain : ρ}

/-- Behind an exact scope without a match, both axes are asked. -/
theorem resolveConstrained_of_noExact {d : String} (hboth : BothAxes rules q) (hd : q.domain = some d)
    (hexact : Unmatched requested (ruleNames (exactRules rules q))) :
    resolveConstrained rules q requested =
      resolveBoth rules q.region d requested (ruleNames (exactRules rules q)) := by
  have hnone : bestRule requested (exactRules rules q) = none := bestRule_eq_none_iff.mpr hexact
  rw [resolveConstrained_of_bothAxes hboth hd]
  unfold searchThen
  rw [hnone, List.nil_append]

/-- The search of the shared rules finds the name on which both axes agree. -/
theorem exists_bestRule_sharedRules (hr : bestRule requested (regionRules rules q) = some ofRegion)
    (he : bestRule requested (domainRules rules q) = some ofDomain) (hname : name ofRegion = name ofDomain) :
    ∃ found, bestRule requested (sharedRules rules q) = some found ∧ name found = name ofRegion := by
  have hbest : IsBest requested (sharedRules rules q) ofRegion :=
    isBest_sharedRules (isBest_of_bestRule hr) (name_mem_sharedNames hr he hname)
  -- the winner of both axes is not left out, so the search finds something
  have hsome : bestRule requested (sharedRules rules q) ≠ none := by
    intro hnone
    exact hbest.not_unmatched hbest.mem (bestRule_eq_none_iff.mp hnone)
  obtain ⟨found, hfound⟩ := Option.ne_none_iff_exists'.mp hsome
  have hfoundBest : IsBest requested (sharedRules rules q) found := isBest_of_bestRule hfound
  exact ⟨found, hfound, hbest.name_eq hfoundBest hfoundBest.mem hbest.mem⟩

/-- A name of both axes matches exactly if the shared names do not all refuse. -/
theorem not_unmatched_sharedNames_iff :
    ¬ Unmatched requested (sharedNames rules q) ↔
      ∃ v, v ∈ ruleNames (regionRules rules q) ∧ v ∈ ruleNames (domainRules rules q) ∧
        (matchScore? v requested).isSome := by
  simp only [not_unmatched_iff, mem_sharedNames, and_assoc]

/-- **The short way of equal names ends where the search of the shared rules would.** -/
theorem sharedSearch_of_bothAxes (hboth : BothAxes rules q)
    (hexact : Unmatched requested (ruleNames (exactRules rules q))) : SharedSearch rules q requested := by
  obtain ⟨d, hd⟩ := hboth.domain_isSome
  have hconstrained := resolveConstrained_of_noExact hboth hd hexact
  constructor
  case shortcut =>
    intro ofRegion ofDomain hr he hname
    exact exists_bestRule_sharedRules hr he hname
  case answer =>
    rw [hconstrained]
    -- the shared rules hold one of the name on which both axes agree, and it is the best of them
    obtain ⟨r, e, hr, he, hname, hshort⟩ | hsearch :=
      resolveBoth_cases rules hd requested (ruleNames (exactRules rules q))
    · obtain ⟨found, hfound, hsame⟩ := exists_bestRule_sharedRules hr he hname
      unfold searchShared
      rw [hshort, hfound]
      exact congrArg Except.ok hsame.symm
    · rw [hsearch]
      rfl
  case admitted_iff =>
    rw [hconstrained, ← not_unmatched_sharedNames_iff]
    constructor
    · rintro ⟨rule, hrule⟩ hnone
      have herror : resolveBoth rules q.region d requested (ruleNames (exactRules rules q)) =
          .error (ruleNames (exactRules rules q) ++ sharedNames rules q) :=
        (resolveBoth_eq_error_iff hd).mpr ⟨hnone, rfl⟩
      rw [hrule] at herror
      cases herror
    · intro hmatched
      cases hanswer : resolveBoth rules q.region d requested (ruleNames (exactRules rules q)) with
      | ok rule => exact ⟨rule, rfl⟩
      | error searched => exact absurd ((resolveBoth_eq_error_iff hd).mp hanswer).1 hmatched

/-- Pools on both axes, of which that of the domain is declared first. Each axis has a wildcard of its own besides,
which matches worse or not at all. -/
def poolsAgreeing : List FloatingPool := [
  ⟨"*", some "r1", none, none, none, []⟩,
  ⟨"fip-eu*", none, some "d1", none, none, []⟩,
  ⟨"fip-eu*", some "r1", none, none, none, []⟩,
  ⟨"fip-us*", none, some "d1", none, none, []⟩,
  ⟨"private", some "r1", some "d1", none, none, []⟩]

/-- The short way answers with the pool of the region, the search with that of the domain, under one name. -/
theorem sharedSearch_poolsAgreeing :
    let q : Query := ⟨"r1", some "d1"⟩
    let ofRegion : FloatingPool := ⟨"fip-eu*", some "r1", none, none, none, []⟩
    let ofDomain : FloatingPool := ⟨"fip-eu*", none, some "d1", none, none, []⟩
    BothAxes poolsAgreeing q ∧ Unmatched "fip-eu-1" (ruleNames (exactRules poolsAgreeing q)) ∧
      resolveConstrained poolsAgreeing q "fip-eu-1" = .ok ofRegion ∧
      bestRule "fip-eu-1" (sharedRules poolsAgreeing q) = some ofDomain ∧
      SharedSearch poolsAgreeing q "fip-eu-1" := by
  intro q ofRegion ofDomain
  have hboth : BothAxes poolsAgreeing q := ⟨List.cons_ne_nil _ _, List.cons_ne_nil _ _⟩
  have hexact : Unmatched "fip-eu-1" (ruleNames (exactRules poolsAgreeing q)) := by decide
  exact ⟨hboth, hexact, rfl, rfl, sharedSearch_of_bothAxes hboth hexact⟩

end OpenstackAdmission
