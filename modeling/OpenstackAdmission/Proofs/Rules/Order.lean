import Mathlib.Data.List.Sort
import OpenstackAdmission.Proofs.Rules.Insertion

/-!
# The order of rules

In which order rules are declared decides between rules of one name, and nothing else.

> `resolve_of_perm`: a list and any permutation of it refuse the same names with the same error, and what they
accept, they accept under the same name, by rules that both constrain or both do not. Unless both axes of the
request have rules, constraining rules that answer have one scope too.

A resolution goes through a few lists of rules and answers with a best rule of the first one that has a match
(`firstBest_of_resolve`). Lists with the same rules, in any order, are gone through alike, and their best rules
have one name, since patterns that match equally well are the same (`IsBest.name_eq`). Only two of the lists hold
rules of more than one scope: that of the rules with shared names, and that of the rules that do not constrain.
-/

namespace OpenstackAdmission

open ScopedRule

variable {ρ : Type} [ScopedRule ρ]

/-- The lists that a resolution searches until one has a match. -/
def searchOrder (rules : List ρ) (q : Query) : List (List ρ) :=
  if (regionRules rules q).isEmpty || (domainRules rules q).isEmpty then
    [exactRules rules q, regionRules rules q, domainRules rules q, Scope.everywhere.rules rules,
      additionalRules rules q]
  else [exactRules rules q, sharedRules rules q, additionalRules rules q]

/-- A best rule of the first of some lists that has a match. -/
inductive FirstBest (requested : String) : List (List ρ) → ρ → Prop where
  | here {list : List ρ} {lists : List (List ρ)} {rule : ρ} (best : IsBest requested list rule) :
    FirstBest requested (list :: lists) rule
  | later {list : List ρ} {lists : List (List ρ)} {rule : ρ}
    (none : Unmatched requested (ruleNames list)) (h : FirstBest requested lists rule) :
    FirstBest requested (list :: lists) rule

/-- The lists hold the same items. -/
def SameItems (list other : List ρ) : Prop := list ⊆ other ∧ other ⊆ list

/-- Two rules that the order of declaration decides between. -/
structure DifferByTie (rules : List ρ) (q : Query) (rule other : ρ) : Prop where
  name_eq : name other = name rule
  status_eq : nonConstraining other = nonConstraining rule
  scope_eq : ¬ BothAxes rules q → nonConstraining rule = false →
    region other = region rule ∧ domain other = domain rule

variable {rules more : List ρ} {q : Query} {rule other : ρ} {requested : String}

/-! ## Best rules of lists -/

/-- Rules that match best, each of a list that holds the other one as well, have one name. -/
theorem IsBest.name_eq {list others : List ρ} (h : IsBest requested list rule)
    (hother : IsBest requested others other) (hmem : other ∈ list) (hmem' : rule ∈ others) :
    name other = name rule := by
  obtain ⟨score, hscore⟩ := Option.isSome_iff_exists.mp h.hit
  obtain ⟨otherScore, hotherScore⟩ := Option.isSome_iff_exists.mp hother.hit
  have hsame : score = otherScore :=
    MatchScore.eq_of_not_lt (h.best score hscore other hmem otherScore hotherScore)
      (hother.best otherScore hotherScore rule hmem' score hscore)
  exact eq_of_matchScore? hotherScore (hsame ▸ hscore)

/-- Where a best rule of one list occurs in another, this list has a name that matches, so that its search
ends there. -/
theorem IsBest.not_unmatched {list others : List ρ} (h : IsBest requested list rule)
    (hmem : rule ∈ others) : ¬ Unmatched requested (ruleNames others) := by
  intro hnone
  have hhit := h.hit
  rw [unmatched_ruleNames.mp hnone rule hmem] at hhit
  cases hhit

/-- Of lists with the same rules, the same one has the first match. -/
theorem FirstBest.same_list {lists others : List (List ρ)} (hsame : List.Forall₂ SameItems lists others)
    (h : FirstBest requested lists rule) (hother : FirstBest requested others other) :
    name other = name rule ∧ ∃ list ∈ lists, rule ∈ list ∧ other ∈ list := by
  -- both searches end in the first pair of lists that has a match, since the lists of a pair have the
  -- same rules
  induction hsame with
  | nil => cases h
  | cons hitems hrest ih =>
    cases h with
    | here best =>
      cases hother with
      | here best' =>
        have hmem := hitems.2 best'.mem
        exact ⟨best.name_eq best' hmem (hitems.1 best.mem), _, .head _, best.mem, hmem⟩
      | later none _ => exact absurd none (best.not_unmatched (hitems.1 best.mem))
    | later none h =>
      cases hother with
      | here best' => exact absurd none (best'.not_unmatched (hitems.2 best'.mem))
      | later _ hother =>
        obtain ⟨hname, list, hlist, hmem⟩ := ih h hother
        exact ⟨hname, list, .tail _ hlist, hmem⟩

/-! ## The lists of a resolution -/

/-- If not both axes have rules, five lists are searched; at most one of those for the region and for the
domain is not empty. -/
theorem searchOrder_of_free (h : ¬ BothAxes rules q) :
    searchOrder rules q = [exactRules rules q, regionRules rules q, domainRules rules q,
      Scope.everywhere.rules rules, additionalRules rules q] := by
  unfold searchOrder
  rw [if_pos]
  rw [Bool.or_eq_true, List.isEmpty_iff, List.isEmpty_iff]
  exact Decidable.or_iff_not_not_and_not.mpr h

/-- If both axes have rules, the rules that they share take the place of both, and the rules for everything
are left out. -/
theorem searchOrder_of_bothAxes (h : BothAxes rules q) :
    searchOrder rules q = [exactRules rules q, sharedRules rules q, additionalRules rules q] := by
  unfold searchOrder
  rw [if_neg]
  rw [Bool.or_eq_true, List.isEmpty_iff, List.isEmpty_iff]
  rintro (hr | hd)
  · exact h.1 hr
  · exact h.2 hd

/-- Where the best rules of both axes agree, they are best among the shared rules. -/
theorem isBest_sharedRules (h : IsBest requested (regionRules rules q) rule)
    (hshared : name rule ∈ sharedNames rules q) : IsBest requested (sharedRules rules q) rule where
  mem := mem_sharedRules.mpr ⟨.inl h.mem, hshared⟩
  hit := h.hit
  best := by
    intro score hscore shared hmem s hs
    -- the region has a rule with the name of each shared rule
    obtain ⟨twin, htwin, hname⟩ := mem_ruleNames.mp (mem_sharedNames.mp (mem_sharedRules.mp hmem).2).1
    rw [← hname] at hs
    exact h.best score hscore twin htwin s hs

/-- What a search of the constraining rules found is the best of the first list in the order that has a
match at all. -/
theorem FoundIn.firstBest (h : FoundIn rules q requested rule) :
    FirstBest requested (searchOrder rules q) rule := by
  -- each way to find a rule leaves out the lists in front of it, which do not match or are empty
  cases h with
  | inExact best =>
    unfold searchOrder
    split <;> exact .here best
  | inRegion noExact free best =>
    rw [searchOrder_of_free free]
    exact .later noExact (.here best)
  | inDomain noExact free best =>
    rw [searchOrder_of_free free]
    have hregion : regionRules rules q = [] :=
      Classical.byContradiction fun hsome => free ⟨hsome, List.ne_nil_of_mem best.mem⟩
    rw [hregion]
    exact .later noExact (.later (unmatched_nil _) (.here best))
  | inEverywhere noExact free noRegion noDomain best =>
    rw [searchOrder_of_free free]
    exact .later noExact (.later noRegion (.later noDomain (.here best)))
  | byAgreement noExact both shared best =>
    rw [searchOrder_of_bothAxes both]
    exact .later noExact (.here (isBest_sharedRules best shared))
  | inShared noExact both best =>
    rw [searchOrder_of_bothAxes both]
    exact .later noExact (.here best)

/-- **A resolution answers with a best rule of the first list that has a match.** -/
theorem firstBest_of_resolve (h : resolve rules q requested = .ok rule) :
    FirstBest requested (searchOrder rules q) rule := by
  obtain hfound | ⟨hnone, best⟩ := resolve_eq_ok h
  · exact hfound.firstBest
  by_cases hboth : BothAxes rules q
  · rw [searchedNames_of_bothAxes hboth, unmatched_append] at hnone
    rw [searchOrder_of_bothAxes hboth]
    have hshared : Unmatched requested (ruleNames (sharedRules rules q)) :=
      (unmatched_congr fun _ => mem_ruleNames_sharedRules).mpr hnone.2
    exact .later hnone.1 (.later hshared (.here best))
  · rw [searchedNames_of_free hboth] at hnone
    simp only [unmatched_append] at hnone
    obtain ⟨hexact, ⟨hregion, hdomain⟩, heverywhere⟩ := hnone
    rw [searchOrder_of_free hboth]
    exact .later hexact (.later hregion (.later hdomain (.later heverywhere (.here best))))

/-- Shared rules are taken from scopes, and those hold constraining rules only. -/
theorem constrains_of_mem_sharedRules (h : rule ∈ sharedRules rules q) :
    nonConstraining rule = false := by
  rcases (mem_sharedRules.mp h).1 with hr | hd
  · exact (mem_regionRules.mp hr).2.1
  · exact (mem_domainRules.mp hd).2.1

/-- Two rules of one scope and one name differ only in what decides nothing: both constrain, and they state
the same domain and the same region. -/
theorem DifferByTie.of_scope {s : Scope} (hrule : rule ∈ s.rules rules) (hother : other ∈ s.rules rules)
    (hname : name other = name rule) : DifferByTie rules q rule other := by
  obtain ⟨-, hc, hd, hr⟩ := mem_scopeRules.mp hrule
  obtain ⟨-, hc', hd', hr'⟩ := mem_scopeRules.mp hother
  exact ⟨hname, hc'.trans hc.symm, fun _ _ => ⟨hr'.trans hr.symm, hd'.trans hd.symm⟩⟩

/-- The same of two rules for the domain of the request, as these are the rules of one scope if there are
any. -/
theorem DifferByTie.of_domain {r : Option String} (hrule : rule ∈ rulesOfDomain rules q r)
    (hother : other ∈ rulesOfDomain rules q r) (hname : name other = name rule) :
    DifferByTie rules q rule other := by
  obtain ⟨-, hc, -, hd, hr⟩ := mem_rulesOfDomain.mp hrule
  obtain ⟨-, hc', -, hd', hr'⟩ := mem_rulesOfDomain.mp hother
  exact ⟨hname, hc'.trans hc.symm, fun _ _ => ⟨hr'.trans hr.symm, hd'.trans hd.symm⟩⟩

/-- Two additional rules of one name may differ in their scopes, but neither of them constrains, and both
count for the request. -/
theorem DifferByTie.of_additional (hrule : rule ∈ additionalRules rules q)
    (hother : other ∈ additionalRules rules q) (hname : name other = name rule) :
    DifferByTie rules q rule other := by
  have hn := (mem_additionalRules.mp hrule).2.1
  refine ⟨hname, (mem_additionalRules.mp hother).2.1.trans hn.symm, fun _ hc => ?_⟩
  rw [hn] at hc
  exact absurd hc.symm Bool.false_ne_true

/-- Rules of one name in one of the lists differ as by a tie. -/
theorem differByTie_of_mem {list : List ρ} (hlist : list ∈ searchOrder rules q) (hrule : rule ∈ list)
    (hother : other ∈ list) (hname : name other = name rule) : DifferByTie rules q rule other := by
  by_cases hboth : BothAxes rules q
  · simp only [searchOrder_of_bothAxes hboth, List.mem_cons, List.not_mem_nil, or_false] at hlist
    rcases hlist with rfl | rfl | rfl
    · exact .of_domain hrule hother hname
    · -- the scope may differ here: one rule is of the region, the other one of the domain
      have hstatus : nonConstraining other = nonConstraining rule :=
        (constrains_of_mem_sharedRules hother).trans (constrains_of_mem_sharedRules hrule).symm
      exact ⟨hname, hstatus, fun hfree => absurd hboth hfree⟩
    · exact .of_additional hrule hother hname
  · simp only [searchOrder_of_free hboth, List.mem_cons, List.not_mem_nil, or_false] at hlist
    rcases hlist with rfl | rfl | rfl | rfl | rfl
    · exact .of_domain hrule hother hname
    · exact .of_scope hrule hother hname
    · exact .of_domain hrule hother hname
    · exact .of_scope hrule hother hname
    · exact .of_additional hrule hother hname

/-! ## Lists with the same rules -/

/-- More rules have more shared rules: a rule that has a common name keeps it among more names. -/
theorem sharedRules_subset (h : rules ⊆ more) (q : Query) :
    sharedRules rules q ⊆ sharedRules more q := by
  intro rule hrule
  rw [mem_sharedRules] at hrule ⊢
  exact ⟨hrule.1.imp (fun hr => scopeRules_subset h _ hr) fun hd => rulesOfDomain_subset h q none hd,
    sharedNames_subset h q hrule.2⟩

section Same

variable (h : rules ⊆ more) (h' : more ⊆ rules)

include h h'

/-- Lists with the same items give a scope the same rules, in whatever order. -/
theorem scopeRules_same (s : Scope) : SameItems (s.rules rules) (s.rules more) :=
  ⟨scopeRules_subset h s, scopeRules_subset h' s⟩

/-- The same of the rules for the domain of a request. -/
theorem rulesOfDomain_same (q : Query) (r : Option String) :
    SameItems (rulesOfDomain rules q r) (rulesOfDomain more q r) :=
  ⟨rulesOfDomain_subset h q r, rulesOfDomain_subset h' q r⟩

/-- The same of the additional rules. -/
theorem additionalRules_same (q : Query) :
    SameItems (additionalRules rules q) (additionalRules more q) :=
  ⟨additionalRules_subset h q, additionalRules_subset h' q⟩

/-- So all lists that are searched for a request have the same items, list by list: whether both axes have
rules depends on items only. -/
theorem searchOrder_same (q : Query) :
    List.Forall₂ SameItems (searchOrder rules q) (searchOrder more q) := by
  by_cases hboth : BothAxes rules q
  · rw [searchOrder_of_bothAxes hboth, searchOrder_of_bothAxes (hboth.of_subset h)]
    exact .cons (rulesOfDomain_same h h' q _) (.cons ⟨sharedRules_subset h q, sharedRules_subset h' q⟩
      (.cons (additionalRules_same h h' q) .nil))
  · rw [searchOrder_of_free hboth, searchOrder_of_free fun hmore => hboth (hmore.of_subset h')]
    exact .cons (rulesOfDomain_same h h' q _) (.cons (scopeRules_same h h' _)
      (.cons (rulesOfDomain_same h h' q _) (.cons (scopeRules_same h h' _)
        (.cons (additionalRules_same h h' q) .nil))))

/-- The supported names are equal and not only the same, as a refusal lists them in ascending order and each
once. -/
theorem supportedNames_same (q : Query) : supportedNames rules q = supportedNames more q := by
  apply List.Subset.antisymm_of_pairwise (pairwise_ascending _) (pairwise_ascending _)
  · exact supportedNames_subset h (BothAxes.of_subset h')
  · exact supportedNames_subset h' (BothAxes.of_subset h)

/-- Rules that answer from two lists with the same rules differ as by a tie. -/
theorem differByTie_of_resolve (hrule : resolve rules q requested = .ok rule)
    (hother : resolve more q requested = .ok other) : DifferByTie rules q rule other := by
  obtain ⟨hname, list, hlist, hmem, hmem'⟩ := FirstBest.same_list (searchOrder_same h h' q)
    (firstBest_of_resolve hrule) (firstBest_of_resolve hother)
  exact differByTie_of_mem hlist hmem hmem' hname

end Same

/-! ## Permutations -/

/-- **The order of rules decides nothing but ties.** A list and a permutation of it both refuse a name, with the
same names for an error, or both accept it, by rules of one name that differ in nothing that the request can
tell. -/
theorem resolve_of_perm (h : more.Perm rules) (q : Query) (requested : String) :
    (∃ supported, resolve rules q requested = .error supported ∧
        resolve more q requested = .error supported) ∨
      ∃ rule other, resolve rules q requested = .ok rule ∧ resolve more q requested = .ok other ∧
        DifferByTie rules q rule other := by
  have hsupported : supportedNames more q = supportedNames rules q :=
    supportedNames_same h.subset h.symm.subset q
  cases hrule : resolve rules q requested with
  | error supported =>
    refine .inl ⟨supported, rfl, ?_⟩
    rw [resolve_eq_error_iff, hsupported]
    exact resolve_eq_error_iff.mp hrule
  | ok rule =>
    cases hother : resolve more q requested with
    | error supported =>
      rw [resolve_eq_error_iff, hsupported, ← resolve_eq_error_iff, hrule] at hother
      cases hother
    | ok other =>
      exact .inr ⟨rule, other, rfl, rfl, differByTie_of_resolve h.symm.subset h.subset hrule hother⟩

/-- Where both axes have rules, the order decides between the rule of the region and that of the domain. -/
theorem resolve_poolsOnBothAxes_reverse :
    let q : Query := ⟨"r1", some "d1"⟩
    let ofRegion : FloatingPool := ⟨"fip-*", some "r1", none, none, none, []⟩
    let ofDomain : FloatingPool := ⟨"fip-*", none, some "d1", none, none, []⟩
    poolsOnBothAxes.reverse.Perm poolsOnBothAxes ∧
      resolve poolsOnBothAxes q "fip-eu-1" = .ok ofRegion ∧
      resolve poolsOnBothAxes.reverse q "fip-eu-1" = .ok ofDomain ∧
      DifferByTie poolsOnBothAxes q ofRegion ofDomain := by
  intro q ofRegion ofDomain
  have hperm : poolsOnBothAxes.reverse.Perm poolsOnBothAxes := List.reverse_perm _
  have hregion : resolve poolsOnBothAxes q "fip-eu-1" = .ok ofRegion := rfl
  have hdomain : resolve poolsOnBothAxes.reverse q "fip-eu-1" = .ok ofDomain := rfl
  refine ⟨hperm, hregion, hdomain, ?_⟩
  obtain ⟨supported, herror, -⟩ | ⟨rule, other, hrule, hother, htie⟩ :=
    resolve_of_perm hperm q "fip-eu-1"
  · rw [hregion] at herror
    cases herror
  · rw [hregion] at hrule
    rw [hdomain] at hother
    obtain rfl := Except.ok.inj hrule
    obtain rfl := Except.ok.inj hother
    exact htie

end OpenstackAdmission
