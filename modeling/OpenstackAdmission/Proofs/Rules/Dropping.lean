import OpenstackAdmission.Proofs.Rules.Axes

/-!
# Dropping rules

A resolution reads the rules that count for its request and no others. So a list from which others are dropped
is searched alike, although what is left of it has other places in the list.

> `resolveConstrained_filter`: the search of the constraining rules is the same in a list that keeps those that
count for the request.

> `resolve_filter`: a resolution is the same in a list that keeps all rules that count for the request.

Whether a rule counts is decided in two ways. A constraining rule stands in one of the scopes of the request, of
which each states its region and domain exactly; any other rule is held against the request itself. Both ways
come to `Query.includes` (`includes_of_mem_scopeRules`).
-/

namespace OpenstackAdmission

open ScopedRule

variable {ρ : Type} [ScopedRule ρ] {rules : List ρ} {q : Query} {rule : ρ} {keeps : ρ → Bool}

/-! ## The rules of one scope -/

/-- A scope of a request states nothing that the request does not have. -/
def Scope.IsOf (s : Scope) (q : Query) : Prop :=
  (s.domain = none ∨ s.domain = q.domain) ∧ (s.region = none ∨ s.region = some q.region)

/-- The rules of a scope of the request count for it. -/
theorem includes_of_mem_scopeRules {s : Scope} (hs : s.IsOf q) (h : rule ∈ s.rules rules) :
    rule ∈ rules ∧ nonConstraining rule = false ∧ q.includes rule = true := by
  obtain ⟨hmem, hc, hd, hr⟩ := mem_scopeRules.mp h
  refine ⟨hmem, hc, includes_iff.mpr ⟨hr ▸ hs.2, ?_⟩⟩
  cases hsome : domain rule with
  | none => exact .inl rfl
  | some d =>
    refine .inr ⟨?_, rfl⟩
    rcases hs.1 with hnone | heq
    · rw [hsome, hnone] at hd
      cases hd
    · rw [← hsome, hd, heq]

/-- What is selected from a list is the same after others are dropped, if what is selected is kept. -/
theorem filter_filter_of_kept {α : Type} {items : List α} {keeps selects : α → Bool}
    (h : ∀ item ∈ items, selects item = true → keeps item = true) :
    (items.filter keeps).filter selects = items.filter selects := by
  rw [List.filter_filter]
  apply List.filter_congr
  intro item hmem
  by_cases hselects : selects item = true
  · rw [hselects, h item hmem hselects]
    rfl
  · rw [Bool.eq_false_iff.mpr hselects]
    rfl

/-- Nothing changes for a scope of which all rules are kept. -/
theorem scopeRules_filter {s : Scope} (h : ∀ rule ∈ s.rules rules, keeps rule = true) :
    s.rules (rules.filter keeps) = s.rules rules := by
  unfold Scope.rules at h ⊢
  apply filter_filter_of_kept
  intro rule hmem hholds
  exact h rule (List.mem_filter.mpr ⟨hmem, hholds⟩)

/-! ## The search of the constraining rules -/

section Constrained

variable (h : ∀ rule ∈ rules, nonConstraining rule = false → q.includes rule = true →
  keeps rule = true)

include h

/-- A filter that keeps the rules of the request keeps all rules of its scopes: a rule of such a scope
counts for the request. -/
theorem scopeRules_filter_of_isOf {s : Scope} (hs : s.IsOf q) :
    s.rules (rules.filter keeps) = s.rules rules := by
  apply scopeRules_filter
  intro rule hrule
  obtain ⟨hmem, hc, hq⟩ := includes_of_mem_scopeRules hs hrule
  exact h rule hmem hc hq

/-- The names that both axes have are the same after the filter, as both scopes keep their rules. -/
theorem commonNames_filter {d : String} (hd : q.domain = some d) :
    commonNames (rules.filter keeps) q.region d = commonNames rules q.region d := by
  have hregion : (regionScope q.region).IsOf q := ⟨.inl rfl, .inr rfl⟩
  have hdomain : (domainScope d).IsOf q := ⟨.inr hd.symm, .inl rfl⟩
  unfold commonNames
  rw [scopeRules_filter_of_isOf h hregion, scopeRules_filter_of_isOf h hdomain]

/-- The rules with common names are the same after the filter, since the names are the same and each of
these rules counts for the request. -/
theorem commonRules_filter {d : String} (hd : q.domain = some d) :
    commonRules (rules.filter keeps) q.region d = commonRules rules q.region d := by
  unfold commonRules
  rw [commonNames_filter h hd]
  apply filter_filter_of_kept
  intro rule hmem hselects
  simp only [Bool.and_eq_true, Bool.or_eq_true, Bool.not_eq_true'] at hselects
  obtain ⟨⟨hc, hscope⟩, -⟩ := hselects
  -- a common rule stands in one of the two scopes
  rcases hscope with hregion | hdomain
  · have hrule : rule ∈ (regionScope q.region).rules rules :=
      List.mem_filter.mpr ⟨hmem, by rw [hc, hregion]; rfl⟩
    exact h rule hmem hc (includes_of_mem_scopeRules ⟨.inl rfl, .inr rfl⟩ hrule).2.2
  · have hrule : rule ∈ (domainScope d).rules rules :=
      List.mem_filter.mpr ⟨hmem, by rw [hc, hdomain]; rfl⟩
    exact h rule hmem hc (includes_of_mem_scopeRules ⟨.inr hd.symm, .inl rfl⟩ hrule).2.2

/-- The search of the constraining rules reads those that count for the request. -/
theorem resolveConstrained_filter (requested : String) :
    resolveConstrained (rules.filter keeps) q requested = resolveConstrained rules q requested := by
  have hregion : (regionScope q.region).rules (rules.filter keeps) =
      (regionScope q.region).rules rules :=
    scopeRules_filter_of_isOf h ⟨.inl rfl, .inr rfl⟩
  have heverywhere : Scope.everywhere.rules (rules.filter keeps) = Scope.everywhere.rules rules :=
    scopeRules_filter_of_isOf h ⟨.inl rfl, .inl rfl⟩
  unfold resolveConstrained
  -- every scope of the request is searched for what it was, so the branches do not have to be told
  -- apart
  cases hd : q.domain with
  | none =>
    unfold resolveInRegion resolveEverywhere
    rw [hregion, heverywhere]
  | some d =>
    have hexact : (⟨some d, some q.region⟩ : Scope).rules (rules.filter keeps) =
        (⟨some d, some q.region⟩ : Scope).rules rules :=
      scopeRules_filter_of_isOf h ⟨.inr hd.symm, .inr rfl⟩
    have hdomain : (domainScope d).rules (rules.filter keeps) = (domainScope d).rules rules :=
      scopeRules_filter_of_isOf h ⟨.inr hd.symm, .inl rfl⟩
    unfold resolveInDomain resolveBoth resolveEverywhere
    simp only [hexact, hregion, hdomain, heverywhere, commonNames_filter h hd,
      commonRules_filter h hd]

end Constrained

/-! ## All rules -/

/-- The additional rules of a request are the same after a filter that keeps those of them that count for
it. -/
theorem additionalRules_filter
    (h : ∀ rule ∈ rules, nonConstraining rule = true → q.includes rule = true → keeps rule = true) :
    additionalRules (rules.filter keeps) q = additionalRules rules q := by
  unfold additionalRules
  apply filter_filter_of_kept
  intro rule hmem hselects
  obtain ⟨hn, hq⟩ := (Bool.and_eq_true _ _).mp hselects
  exact h rule hmem hn hq

/-- **A resolution reads the rules that count for the request.** -/
theorem resolve_filter (h : ∀ rule ∈ rules, q.includes rule = true → keeps rule = true)
    (requested : String) :
    resolve (rules.filter keeps) q requested = resolve rules q requested := by
  unfold resolve
  rw [resolveConstrained_filter (fun rule hmem _ => h rule hmem) requested,
    additionalRules_filter fun rule hmem _ => h rule hmem]

end OpenstackAdmission
