import OpenstackAdmission.Proofs.Rules.Search

/-!
# The scopes of a request

The constraining rules that count for a request stand in four scopes: those for its domain and its region
(`exactRules`), those for its region alone (`regionRules`), those for its domain alone (`domainRules`), and
those for everything. A request without a domain has the second and the fourth. No other constraining rule
counts (`mem_scopes_iff`).

The search of the constraining rules has two shapes, which depend on the rules and the request but not on the
name:

> `resolveConstrained_of_free`: unless both single axes have rules, the four scopes are searched one after
> the other, and a scope without rules is passed over.

> `resolveConstrained_of_bothAxes`: if both have, the exact scope is searched, and after it only what both
> axes admit.
-/

namespace OpenstackAdmission

open ScopedRule

variable {ρ : Type} [ScopedRule ρ]

/-- The constraining rules for the domain of a request, which state this region or none. -/
def rulesOfDomain (rules : List ρ) (q : Query) (region : Option String) : List ρ :=
  match q.domain with
  | some d => (⟨some d, region⟩ : Scope).rules rules
  | none => []

/-- The constraining rules for exactly the domain and the region of a request. -/
def exactRules (rules : List ρ) (q : Query) : List ρ := rulesOfDomain rules q (some q.region)

/-- The constraining rules for the region of a request alone. -/
def regionRules (rules : List ρ) (q : Query) : List ρ := (regionScope q.region).rules rules

/-- The constraining rules for the domain of a request alone. -/
def domainRules (rules : List ρ) (q : Query) : List ρ := rulesOfDomain rules q none

/-- The names that occur both among the rules for the region and among those for the domain. -/
def sharedNames (rules : List ρ) (q : Query) : List String :=
  match q.domain with
  | some d => commonNames rules q.region d
  | none => []

/-- The constraining rules of both axes whose names occur on both. -/
def sharedRules (rules : List ρ) (q : Query) : List ρ :=
  match q.domain with
  | some d => commonRules rules q.region d
  | none => []

/-- There are rules for the region alone and rules for the domain alone. -/
def BothAxes (rules : List ρ) (q : Query) : Prop :=
  regionRules rules q ≠ [] ∧ domainRules rules q ≠ []

variable {rules : List ρ} {q : Query} {rule : ρ}

/-! ## Members of scopes -/

/-- The rules of a scope are the constraining rules of the list that state exactly its domain and its
region; what they do not state, the scope does not have. -/
theorem mem_scopeRules {s : Scope} :
    rule ∈ s.rules rules ↔
      rule ∈ rules ∧ nonConstraining rule = false ∧ domain rule = s.domain ∧
        region rule = s.region := by
  simp [Scope.rules, Scope.holds]

/-- The rules for the domain of a request, in some region or in none. They are there only if the request has
a domain, which `isSome` says of the rule. -/
theorem mem_rulesOfDomain {r : Option String} :
    rule ∈ rulesOfDomain rules q r ↔
      rule ∈ rules ∧ nonConstraining rule = false ∧ (domain rule).isSome ∧
        domain rule = q.domain ∧ region rule = r := by
  unfold rulesOfDomain
  cases q.domain with
  | none =>
    simp only [List.not_mem_nil, false_iff]
    rintro ⟨-, -, hsome, hnone, -⟩
    rw [hnone] at hsome
    cases hsome
  | some d =>
    rw [mem_scopeRules]
    constructor
    · rintro ⟨hmem, hc, hd, hr⟩
      exact ⟨hmem, hc, by rw [hd]; rfl, hd, hr⟩
    · rintro ⟨hmem, hc, -, hd, hr⟩
      exact ⟨hmem, hc, hd, hr⟩

/-- The rules of the narrowest scope state both the domain and the region of the request. -/
theorem mem_exactRules :
    rule ∈ exactRules rules q ↔
      rule ∈ rules ∧ nonConstraining rule = false ∧ (domain rule).isSome ∧
        domain rule = q.domain ∧ region rule = some q.region :=
  mem_rulesOfDomain

/-- The rules for the region alone state no domain, so that they count for every domain of the region. -/
theorem mem_regionRules :
    rule ∈ regionRules rules q ↔
      rule ∈ rules ∧ nonConstraining rule = false ∧ domain rule = none ∧
        region rule = some q.region :=
  mem_scopeRules

/-- The rules for the domain alone state no region, so that they count for every region of the domain. -/
theorem mem_domainRules :
    rule ∈ domainRules rules q ↔
      rule ∈ rules ∧ nonConstraining rule = false ∧ (domain rule).isSome ∧
        domain rule = q.domain ∧ region rule = none :=
  mem_rulesOfDomain

theorem mem_everywhereRules :
    rule ∈ Scope.everywhere.rules rules ↔
      rule ∈ rules ∧ nonConstraining rule = false ∧ domain rule = none ∧ region rule = none :=
  mem_scopeRules

/-- A name is shared if a rule for the region and a rule for the domain have it. -/
theorem mem_sharedNames {v : String} :
    v ∈ sharedNames rules q ↔
      v ∈ ruleNames (regionRules rules q) ∧ v ∈ ruleNames (domainRules rules q) := by
  unfold sharedNames domainRules rulesOfDomain
  cases q.domain with
  | none => simp [ruleNames]
  | some d =>
    simp only [commonNames, List.mem_filter, mem_ascending, decide_eq_true_eq]
    exact and_comm

/-- The shared rules are the rules of both axes under shared names. -/
theorem mem_sharedRules :
    rule ∈ sharedRules rules q ↔
      (rule ∈ regionRules rules q ∨ rule ∈ domainRules rules q) ∧
        name rule ∈ sharedNames rules q := by
  unfold sharedRules sharedNames domainRules rulesOfDomain
  cases q.domain with
  | none => simp
  | some d =>
    simp only [commonRules, regionRules, Scope.rules, List.mem_filter, domainScope,
      Bool.and_eq_true, Bool.or_eq_true, decide_eq_true_eq]
    constructor
    · rintro ⟨hmem, ⟨hc, hr | hd⟩, hname⟩
      · exact ⟨.inl ⟨hmem, hc, hr⟩, hname⟩
      · exact ⟨.inr ⟨hmem, hc, hd⟩, hname⟩
    · rintro ⟨⟨hmem, hc, hr⟩ | ⟨hmem, hc, hd⟩, hname⟩
      · exact ⟨hmem, ⟨hc, .inl hr⟩, hname⟩
      · exact ⟨hmem, ⟨hc, .inr hd⟩, hname⟩

/-- The names of the shared rules are the shared names. -/
theorem mem_ruleNames_sharedRules {v : String} :
    v ∈ ruleNames (sharedRules rules q) ↔ v ∈ sharedNames rules q := by
  rw [mem_ruleNames]
  constructor
  · rintro ⟨rule, hmem, rfl⟩
    exact (mem_sharedRules.mp hmem).2
  · intro hv
    obtain ⟨rule, hmem, rfl⟩ := mem_ruleNames.mp (mem_sharedNames.mp hv).1
    exact ⟨rule, mem_sharedRules.mpr ⟨.inl hmem, hv⟩, rfl⟩

/-! ## Rules that count for a request -/

/-- A rule counts for a request exactly if each axis is either left open by the rule or stated as the
request has it. A request without domain meets no stated domain. -/
theorem includes_iff :
    q.includes rule = true ↔
      (region rule = none ∨ region rule = some q.region) ∧
        (domain rule = none ∨ domain rule = q.domain ∧ (domain rule).isSome) := by
  unfold Query.includes
  rw [Bool.and_eq_true]
  refine and_congr ?_ ?_
  · cases region rule <;> simp
  · cases domain rule <;> simp [eq_comm]

/-- A rule that counts states nothing that the request does not have. -/
theorem states_of_includes (h : q.includes rule = true) :
    (∀ r, region rule = some r → r = q.region) ∧ ∀ d, domain rule = some d → q.domain = some d := by
  obtain ⟨hr, hd⟩ := includes_iff.mp h
  refine ⟨?_, ?_⟩
  · intro r hrule
    rw [hrule] at hr
    simpa using hr
  · intro d hrule
    rw [hrule] at hd
    simpa [eq_comm] using hd

/-- The four scopes of a request hold exactly the constraining rules that count for it. -/
theorem mem_scopes_iff :
    (rule ∈ exactRules rules q ∨ rule ∈ regionRules rules q ∨ rule ∈ domainRules rules q ∨
        rule ∈ Scope.everywhere.rules rules) ↔
      rule ∈ rules ∧ nonConstraining rule = false ∧ q.includes rule = true := by
  rw [mem_exactRules, mem_regionRules, mem_domainRules, mem_everywhereRules, includes_iff]
  constructor
  · rintro (⟨hmem, hc, hs, hd, hr⟩ | ⟨hmem, hc, hd, hr⟩ | ⟨hmem, hc, hs, hd, hr⟩ |
      ⟨hmem, hc, hd, hr⟩)
    · exact ⟨hmem, hc, .inr hr, .inr ⟨hd, hs⟩⟩
    · exact ⟨hmem, hc, .inr hr, .inl hd⟩
    · exact ⟨hmem, hc, .inl hr, .inr ⟨hd, hs⟩⟩
    · exact ⟨hmem, hc, .inl hr, .inl hd⟩
  · rintro ⟨hmem, hc, hr | hr, hd | ⟨hd, hs⟩⟩
    · exact .inr (.inr (.inr ⟨hmem, hc, hd, hr⟩))
    · exact .inr (.inr (.inl ⟨hmem, hc, hs, hd, hr⟩))
    · exact .inr (.inl ⟨hmem, hc, hd, hr⟩)
    · exact .inl ⟨hmem, hc, hs, hd, hr⟩

/-! ## The two shapes of the search -/

/-- With a domain, the rules for it are those of a scope, and what is known of scopes holds of them. -/
theorem rulesOfDomain_of_some {d : String} (h : q.domain = some d) (r : Option String) :
    rulesOfDomain rules q r = (⟨some d, r⟩ : Scope).rules rules := by
  unfold rulesOfDomain
  rw [h]

/-- Without a domain there are no rules for it, and all searches that begin with them find nothing. -/
theorem rulesOfDomain_of_none (h : q.domain = none) (r : Option String) :
    rulesOfDomain rules q r = [] := by
  unfold rulesOfDomain
  rw [h]

/-- The search where not both axes have rules: four scopes in their order. -/
theorem resolveConstrained_of_free (h : ¬ BothAxes rules q) (requested : String) :
    resolveConstrained rules q requested =
      searchThen requested (exactRules rules q) [] fun searched =>
        searchThen requested (regionRules rules q) searched fun searched =>
          searchThen requested (domainRules rules q) searched
            (resolveEverywhere rules requested) := by
  unfold BothAxes at h
  unfold resolveConstrained exactRules
  unfold domainRules at h ⊢
  cases hd : q.domain with
  | none =>
    rw [rulesOfDomain_of_none hd, rulesOfDomain_of_none hd]
    simp only [searchThen_nil]
    rfl
  | some d =>
    rw [rulesOfDomain_of_some hd] at h ⊢
    rw [rulesOfDomain_of_some hd]
    unfold regionRules at h ⊢
    unfold resolveInDomain domainScope
    dsimp only
    congr 1
    funext searched
    -- the three ways in which an axis has no rules
    cases hr : (regionScope q.region).rules rules with
    | nil => simp only [searchThen_nil]
    | cons r rs =>
      cases he : (⟨some d, none⟩ : Scope).rules rules with
      | nil => simp only [searchThen_nil]
      | cons e es =>
        rw [hr, he] at h
        exact absurd ⟨List.cons_ne_nil r rs, List.cons_ne_nil e es⟩ h

/-- Where both axes have rules, the request has a domain. -/
theorem BothAxes.domain_isSome (h : BothAxes rules q) : ∃ d, q.domain = some d := by
  refine Option.ne_none_iff_exists'.mp fun hnone => h.2 ?_
  exact rulesOfDomain_of_none hnone none

/-- The search where both axes have rules: the exact scope, and then what both admit. -/
theorem resolveConstrained_of_bothAxes {d : String} (h : BothAxes rules q)
    (hd : q.domain = some d) (requested : String) :
    resolveConstrained rules q requested =
      searchThen requested (exactRules rules q) []
        (resolveBoth rules q.region d requested) := by
  unfold BothAxes at h
  unfold resolveConstrained exactRules
  unfold domainRules at h
  rw [rulesOfDomain_of_some hd] at h ⊢
  rw [hd]
  unfold regionRules at h
  dsimp only
  unfold resolveInDomain domainScope
  dsimp only
  congr 1
  funext searched
  -- neither axis is empty, so the search is in the branch where they meet
  cases hr : (regionScope q.region).rules rules with
  | nil => exact absurd hr h.1
  | cons r rs =>
    cases he : (⟨some d, none⟩ : Scope).rules rules with
    | nil => exact absurd he h.2
    | cons e es => rfl

/-! ## What both axes admit -/

/-- Either the best rules of both axes have one name, and that of the region is the answer, or the shared
rules are searched. -/
theorem resolveBoth_cases (rules : List ρ) {d : String} (hd : q.domain = some d)
    (requested : String) (searched : List String) :
    (∃ r e, bestRule requested (regionRules rules q) = some r ∧
        bestRule requested (domainRules rules q) = some e ∧ name r = name e ∧
        resolveBoth rules q.region d requested searched = .ok r) ∨
      resolveBoth rules q.region d requested searched =
        match bestRule requested (sharedRules rules q) with
        | some rule => .ok rule
        | none => .error (searched ++ sharedNames rules q) := by
  have hshared : sharedRules rules q = commonRules rules q.region d := by
    unfold sharedRules
    rw [hd]
  have hnames : sharedNames rules q = commonNames rules q.region d := by
    unfold sharedNames
    rw [hd]
  have hdomain : domainRules rules q = (domainScope d).rules rules := rulesOfDomain_of_some hd none
  rw [hshared, hnames, hdomain]
  unfold resolveBoth regionRules
  dsimp only
  -- the short way needs a best rule on either axis, and the same name for both
  cases bestRule requested ((regionScope q.region).rules rules) with
  | none => exact .inr rfl
  | some r =>
    cases bestRule requested ((domainScope d).rules rules) with
    | none => exact .inr rfl
    | some e =>
      by_cases hname : name r = name e
      · exact .inl ⟨r, e, rfl, rfl, hname, if_pos hname⟩
      · exact .inr (if_neg hname)

/-- A rule that both axes admit under one name has a shared name. -/
theorem name_mem_sharedNames {requested : String} {r e : ρ}
    (hr : bestRule requested (regionRules rules q) = some r)
    (he : bestRule requested (domainRules rules q) = some e) (hname : name r = name e) :
    name r ∈ sharedNames rules q := by
  refine mem_sharedNames.mpr ⟨?_, ?_⟩
  · exact mem_ruleNames.mpr ⟨r, (isBest_of_bestRule hr).mem, rfl⟩
  · exact mem_ruleNames.mpr ⟨e, (isBest_of_bestRule he).mem, hname.symm⟩

/-- What is found where both axes have rules is one of two things: the best rule of the region, if its name
occurs on both axes, or the best of the shared rules. -/
theorem resolveBoth_eq_ok {d requested : String} {searched : List String} (hd : q.domain = some d)
    (h : resolveBoth rules q.region d requested searched = .ok rule) :
    bestRule requested (regionRules rules q) = some rule ∧ name rule ∈ sharedNames rules q ∨
      bestRule requested (sharedRules rules q) = some rule := by
  obtain ⟨r, e, hr, he, hname, heq⟩ | heq := resolveBoth_cases rules hd requested searched
  · rw [heq] at h
    obtain rfl := Except.ok.inj h
    exact .inl ⟨hr, name_mem_sharedNames hr he hname⟩
  · rw [heq] at h
    cases hs : bestRule requested (sharedRules rules q) with
    | none => rw [hs] at h; cases h
    | some found =>
      rw [hs] at h
      exact .inr (congrArg some (Except.ok.inj h))

/-- Both axes refuse a name exactly if no shared name matches it: where the best rules agree, their name is
shared. -/
theorem resolveBoth_eq_error_iff {d requested : String} {searched supported : List String}
    (hd : q.domain = some d) :
    resolveBoth rules q.region d requested searched = .error supported ↔
      Unmatched requested (sharedNames rules q) ∧ searched ++ sharedNames rules q = supported := by
  have hcongr : Unmatched requested (ruleNames (sharedRules rules q)) ↔
      Unmatched requested (sharedNames rules q) :=
    unmatched_congr fun _ => mem_ruleNames_sharedRules
  obtain ⟨r, e, hr, he, hname, heq⟩ | heq := resolveBoth_cases rules hd requested searched
  · rw [heq]
    have hmatched : ¬ Unmatched requested (sharedNames rules q) :=
      not_unmatched_iff.mpr
        ⟨name r, name_mem_sharedNames hr he hname, (isBest_of_bestRule hr).hit⟩
    simp [hmatched]
  · rw [heq, ← hcongr, ← bestRule_eq_none_iff]
    cases hs : bestRule requested (sharedRules rules q) with
    | none => simp
    | some found => simp

end OpenstackAdmission
