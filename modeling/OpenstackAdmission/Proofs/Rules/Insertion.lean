import OpenstackAdmission.Proofs.Rules.Precedence

/-!
# Adding a rule

A rule that is added to a list, wherever it is put, adds names that are accepted. The exception is the first
constraining rule of one axis of the request, where the other axis has rules already (`SecondAxis`): from then
on a name has to be admitted by both axes, and rules for everything are not reached any more.

> `accepted_of_insert`: with this exception, every accepted name stays accepted; and if the rule does not
> constrain, every request that found a constraining rule finds the same rule.

The argument is about lists of which one holds all rules of the other. Then each scope holds all rules that it
held (`scopeRules_subset`), so all supported names stay supported (`supportedNames_subset`), unless only the
longer list has rules on both axes. That no rule that does not constrain takes part in the search of those that
do is `resolveConstrained_constrainingRules`.
-/

namespace OpenstackAdmission

open ScopedRule

variable {ρ : Type} [ScopedRule ρ]

/-- The rule constrains one axis of a request with a domain, which has no rules, and the other axis has some. -/
def SecondAxis (rules : List ρ) (q : Query) (rule : ρ) : Prop :=
  nonConstraining rule = false ∧ ∃ d, q.domain = some d ∧
    ((regionScope q.region).holds rule = true ∧ (regionScope q.region).rules rules = [] ∧
        (domainScope d).rules rules ≠ [] ∨
      (domainScope d).holds rule = true ∧ (domainScope d).rules rules = [] ∧
        (regionScope q.region).rules rules ≠ [])

variable {rules more : List ρ} {q : Query} {rule : ρ} {requested : String}

/-! ## More rules -/

/-- A scope of more rules holds all that it held before; this is what all further inclusions come from. -/
theorem scopeRules_subset (h : rules ⊆ more) (s : Scope) : s.rules rules ⊆ s.rules more := by
  intro rule hrule
  rw [mem_scopeRules] at hrule ⊢
  exact ⟨h hrule.1, hrule.2⟩

/-- The same of the rules for the domain of a request, whether there is a domain or not. -/
theorem rulesOfDomain_subset (h : rules ⊆ more) (q : Query) (region : Option String) :
    rulesOfDomain rules q region ⊆ rulesOfDomain more q region := by
  intro rule hrule
  rw [mem_rulesOfDomain] at hrule ⊢
  exact ⟨h hrule.1, hrule.2⟩

/-- The names of more rules are more names. -/
theorem ruleNames_subset (h : rules ⊆ more) : ruleNames rules ⊆ ruleNames more :=
  List.map_subset name h

/-- Where both axes have rules, they have rules among more. -/
theorem BothAxes.of_subset (h : rules ⊆ more) (hboth : BothAxes rules q) : BothAxes more q := by
  constructor
  · intro hnil
    exact hboth.1 (List.subset_nil.mp (hnil ▸ scopeRules_subset h (regionScope q.region)))
  · intro hnil
    exact hboth.2 (List.subset_nil.mp (hnil ▸ rulesOfDomain_subset h q none))

/-- A name that stands on both axes still does so among more rules, since neither axis loses one. -/
theorem sharedNames_subset (h : rules ⊆ more) (q : Query) :
    sharedNames rules q ⊆ sharedNames more q := by
  intro v hv
  rw [mem_sharedNames] at hv ⊢
  exact ⟨ruleNames_subset (scopeRules_subset h _) hv.1,
    ruleNames_subset (rulesOfDomain_subset h q none) hv.2⟩

/-- More rules are searched under more names, if they do not give both axes rules that had not. -/
theorem searchedNames_subset (h : rules ⊆ more) (haxes : BothAxes more q → BothAxes rules q) :
    searchedNames rules q ⊆ searchedNames more q := by
  intro v hv
  have hexact : ruleNames (exactRules rules q) ⊆ ruleNames (exactRules more q) :=
    ruleNames_subset (rulesOfDomain_subset h q (some q.region))
  by_cases hboth : BothAxes rules q
  · rw [searchedNames_of_bothAxes hboth, List.mem_append] at hv
    rw [searchedNames_of_bothAxes (hboth.of_subset h), List.mem_append]
    exact hv.imp (fun he => hexact he) fun hs => sharedNames_subset h q hs
  · -- the longer list is searched through the same four scopes
    rw [searchedNames_of_free hboth] at hv
    rw [searchedNames_of_free fun hmore => hboth (haxes hmore)]
    have hregion : ruleNames (regionRules rules q) ⊆ ruleNames (regionRules more q) :=
      ruleNames_subset (scopeRules_subset h _)
    have hdomain : ruleNames (domainRules rules q) ⊆ ruleNames (domainRules more q) :=
      ruleNames_subset (rulesOfDomain_subset h q none)
    have heverywhere : ruleNames (Scope.everywhere.rules rules) ⊆
        ruleNames (Scope.everywhere.rules more) :=
      ruleNames_subset (scopeRules_subset h _)
    simp only [List.mem_append] at hv ⊢
    exact hv.imp (fun hv => hexact hv) fun hv =>
      hv.imp (fun hv => hv.imp (fun hv => hregion hv) fun hv => hdomain hv) fun hv =>
        heverywhere hv

/-- Rules that do not constrain stay among the additional ones. -/
theorem additionalRules_subset (h : rules ⊆ more) (q : Query) :
    additionalRules rules q ⊆ additionalRules more q := by
  intro rule hrule
  rw [mem_additionalRules] at hrule ⊢
  exact ⟨h hrule.1, hrule.2⟩

/-- All supported names stay supported, if more rules do not give both axes rules that had not: then the
same scopes are searched, each with what it held. -/
theorem supportedNames_subset (h : rules ⊆ more) (haxes : BothAxes more q → BothAxes rules q) :
    supportedNames rules q ⊆ supportedNames more q := by
  intro v hv
  rw [mem_supportedNames] at hv ⊢
  -- names come from the constraining rules or from the others, and both lists only grow
  exact hv.imp (fun hs => searchedNames_subset h haxes hs) fun ha =>
    ruleNames_subset (additionalRules_subset h q) ha

/-- More rules accept more names, if they do not give both axes rules that had not. -/
theorem accepted_of_subset (h : rules ⊆ more) (haxes : BothAxes more q → BothAxes rules q)
    (haccepted : ∃ rule, resolve rules q requested = .ok rule) :
    ∃ rule, resolve more q requested = .ok rule := by
  obtain ⟨v, hv, hmatch⟩ := exists_resolve_iff.mp haccepted
  exact exists_resolve_iff.mpr ⟨v, supportedNames_subset h haxes hv, hmatch⟩

/-! ## One rule more -/

/-- A scope holds a rule exactly if both state the same domain and the same region, or leave the same open.
-/
theorem holds_iff {s : Scope} :
    s.holds rule = true ↔ domain rule = s.domain ∧ region rule = s.region := by
  unfold Scope.holds
  rw [Bool.and_eq_true, decide_eq_true_eq, decide_eq_true_eq]

/-- If a scope gets its first rule, this is the rule that was added. -/
theorem holds_of_insert {s : Scope} {before after : List ρ} (hnone : s.rules (before ++ after) = [])
    (hsome : s.rules (before ++ rule :: after) ≠ []) :
    nonConstraining rule = false ∧ s.holds rule = true := by
  obtain ⟨other, hother⟩ := List.exists_mem_of_ne_nil _ hsome
  obtain ⟨hmem, hc, hscope⟩ := mem_scopeRules.mp hother
  have hcases : other = rule ∨ other ∈ before ++ after := by
    rw [List.mem_append, List.mem_cons] at hmem
    rw [List.mem_append]
    exact or_left_comm.mp hmem
  rcases hcases with rfl | hold
  · exact ⟨hc, holds_iff.mpr hscope⟩
  · -- the other rule was there before, where the scope had none
    have hmember : other ∈ s.rules (before ++ after) := mem_scopeRules.mpr ⟨hold, hc, hscope⟩
    rw [hnone] at hmember
    exact absurd hmember List.not_mem_nil

/-- If only with the rule both axes have rules, it is the first of its axis. -/
theorem secondAxis_of_bothAxes {before after : List ρ} (hfree : ¬ BothAxes (before ++ after) q)
    (hboth : BothAxes (before ++ rule :: after) q) : SecondAxis (before ++ after) q rule := by
  obtain ⟨d, hd⟩ := hboth.domain_isSome
  have hdomain (rules : List ρ) : domainRules rules q = (domainScope d).rules rules :=
    rulesOfDomain_of_some hd none
  unfold BothAxes at hfree hboth
  rw [hdomain] at hfree hboth
  by_cases hregion : (regionScope q.region).rules (before ++ after) = []
  · obtain ⟨hc, hholds⟩ := holds_of_insert hregion hboth.1
    refine ⟨hc, d, hd, .inl ⟨hholds, hregion, ?_⟩⟩
    -- a rule for the region alone is none for the domain alone
    intro hnone
    obtain ⟨-, hother⟩ := holds_of_insert hnone hboth.2
    have hunscoped : domain rule = none := (holds_iff.mp hholds).1
    have hscoped : domain rule = some d := (holds_iff.mp hother).1
    rw [hunscoped] at hscoped
    cases hscoped
  · have hnone : (domainScope d).rules (before ++ after) = [] :=
      Classical.byContradiction fun hsome => hfree ⟨hregion, hsome⟩
    obtain ⟨hc, hholds⟩ := holds_of_insert hnone hboth.2
    exact ⟨hc, d, hd, .inr ⟨hholds, hnone, hregion⟩⟩

/-! ## Rules that do not constrain -/

/-- The search of the constraining rules sees no other rules. -/
theorem resolveConstrained_constrainingRules (rules : List ρ) (q : Query) (requested : String) :
    resolveConstrained (constrainingRules rules) q requested =
      resolveConstrained rules q requested := by
  apply resolveConstrained_filter
  intro rule _ hc _
  rw [hc]
  rfl

/-- What the constraining rules find is the answer. -/
theorem resolve_of_resolveConstrained (h : resolveConstrained rules q requested = .ok rule) :
    resolve rules q requested = .ok rule := by
  unfold resolve
  rw [h]

/-- An answer that constrains was found among the constraining rules. -/
theorem resolveConstrained_of_resolve (h : resolve rules q requested = .ok rule)
    (hc : nonConstraining rule = false) : resolveConstrained rules q requested = .ok rule := by
  unfold resolve at h
  -- the search behind the constraining rules finds only rules that do not constrain
  cases hfound : resolveConstrained rules q requested with
  | ok found =>
    rw [hfound] at h
    exact h
  | error searched =>
    rw [hfound] at h
    dsimp only at h
    split at h
    · next found hadditional =>
      obtain rfl := Except.ok.inj h
      obtain hbest | ⟨-, herror⟩ := searchThen_eq_ok_iff.mp hadditional
      · have hmem := mem_additionalRules.mp (isBest_of_bestRule hbest).mem
        rw [hc] at hmem
        exact absurd hmem.2.1 Bool.false_ne_true
      · cases herror
    · cases h

/-- Lists with the same constraining rules find the same of them. -/
theorem resolve_of_constrainingRules_eq (h : constrainingRules rules = constrainingRules more)
    (hrule : resolve rules q requested = .ok rule) (hc : nonConstraining rule = false) :
    resolve more q requested = .ok rule := by
  apply resolve_of_resolveConstrained
  rw [← resolveConstrained_constrainingRules, ← h, resolveConstrained_constrainingRules]
  exact resolveConstrained_of_resolve hrule hc

/-- A rule that does not constrain leaves the constraining rules of a list as they are, wherever it is put.
-/
theorem constrainingRules_insert (before after : List ρ) (h : nonConstraining rule = true) :
    constrainingRules (before ++ rule :: after) = constrainingRules (before ++ after) := by
  unfold constrainingRules
  rw [List.filter_append, List.filter_append, List.filter_cons_of_neg (by simp [h])]

/-! ## Every rule that is added -/

/-- **Which rule can revoke access.** Wherever a rule is added to a list, every accepted name stays accepted,
unless the rule is the first to constrain an axis of the request and the other axis has rules already. If the
rule does not constrain, a request that found a constraining rule still finds that rule. -/
theorem accepted_of_insert (before after : List ρ) (rule : ρ) (q : Query) :
    (∀ requested, (∃ found, resolve (before ++ after) q requested = .ok found) →
      (∃ found, resolve (before ++ rule :: after) q requested = .ok found) ∨
        SecondAxis (before ++ after) q rule) ∧
      (nonConstraining rule = true → ∀ requested found,
        resolve (before ++ after) q requested = .ok found → nonConstraining found = false →
          resolve (before ++ rule :: after) q requested = .ok found) := by
  have hsubset : before ++ after ⊆ before ++ rule :: after :=
    ((List.sublist_cons_self rule after).append_left before).subset
  constructor
  · intro requested haccepted
    by_cases hfree : ¬ BothAxes (before ++ after) q ∧ BothAxes (before ++ rule :: after) q
    · exact .inr (secondAxis_of_bothAxes hfree.1 hfree.2)
    · refine .inl (accepted_of_subset hsubset (fun hmore => ?_) haccepted)
      exact Classical.byContradiction fun hnone => hfree ⟨hnone, hmore⟩
  · intro hn requested found hfound hc
    exact resolve_of_constrainingRules_eq (constrainingRules_insert before after hn).symm hfound hc

/-! A pool for a domain and one for everything; a pool for a region, and one that does not constrain. -/

def poolOfDomain : FloatingPool := ⟨"fip-d1", none, some "d1", none, none, []⟩

def poolOfEverything : FloatingPool := ⟨"global", none, none, none, none, []⟩

def poolOfRegion : FloatingPool := ⟨"fip-*", some "r1", none, none, none, []⟩

def additionalPool : FloatingPool := ⟨"fip-d1", none, none, none, some true, []⟩

/-- The pool for the region takes nothing away where there is only the pool for everything. Where there is also one for
the domain, it is the exception: the pool for everything is not reached any more, whatever the new one admits itself. A
pool that does not constrain changes nothing for requests that found another one. -/
theorem accepted_poolOfEverything :
    (∃ found, resolve [poolOfRegion, poolOfEverything] ⟨"r1", some "d1"⟩ "global" = .ok found) ∧
      SecondAxis [poolOfDomain, poolOfEverything] ⟨"r1", some "d1"⟩ poolOfRegion ∧
      resolve [poolOfDomain, poolOfRegion, poolOfEverything] ⟨"r1", some "d1"⟩ "global" = .error [] ∧
      resolve [additionalPool, poolOfDomain, poolOfEverything] ⟨"r1", some "d1"⟩ "fip-d1" = .ok poolOfDomain := by
  have hrefused :
      resolve [poolOfDomain, poolOfRegion, poolOfEverything] ⟨"r1", some "d1"⟩ "global" = .error [] := rfl
  refine ⟨?_, ?_, hrefused, ?_⟩
  · refine ((accepted_of_insert [] [poolOfEverything] poolOfRegion _).1 "global" ⟨_, rfl⟩).resolve_right ?_
    rintro ⟨-, d, hd, ⟨-, -, hsome⟩ | ⟨hholds, -, -⟩⟩
    · exact hsome rfl
    · cases hholds
  · refine ((accepted_of_insert [poolOfDomain] [poolOfEverything] poolOfRegion _).1 "global" ⟨_, rfl⟩).resolve_left ?_
    rintro ⟨found, hfound⟩
    cases hrefused.symm.trans hfound
  · exact (accepted_of_insert [] [poolOfDomain, poolOfEverything] additionalPool _).2 rfl "fip-d1" poolOfDomain rfl rfl

end OpenstackAdmission
