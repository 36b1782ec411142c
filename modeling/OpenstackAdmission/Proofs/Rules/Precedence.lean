import OpenstackAdmission.Proofs.Rules.Dropping
import OpenstackAdmission.Proofs.Rules.Supported

/-!
# Precedence of rules

Which rule answers a request. It is a rule of the list, it counts for the request, and its name matches. A
constraining rule answers only if no constraining rule with a narrower scope matches, and within its scope it
matches best. A rule that does not constrain answers only where all constraining rules refuse.

> `precedence_of_resolve_eq_ok`: all this of every rule that a resolution finds.

A scope is the narrower the more it states: `specificity` counts the region and the domain. Where both single
axes have rules, a rule of one axis competes only with rules whose names occur on both, and rules for
everything are not reached at all.
-/

namespace OpenstackAdmission

open ScopedRule

variable {ρ : Type} [ScopedRule ρ]

/-- How much a rule states of the region and the domain. -/
def specificity (rule : ρ) : Nat := (region rule).isSome.toNat + (domain rule).isSome.toNat

/-- The rules without those that do not constrain. -/
def constrainingRules (rules : List ρ) : List ρ := rules.filter (!nonConstraining ·)

/-- What puts a constraining rule before all others. -/
structure Precedence (rules : List ρ) (q : Query) (requested : String) (rule : ρ) : Prop where
  /-- No constraining rule with a narrower scope counts for the request and matches. -/
  narrowest : ∀ other ∈ rules, nonConstraining other = false → q.includes other = true →
    specificity rule < specificity other → matchScore? (name other) requested = none
  /-- A rule for everything answers only if one of the axes has no rules. -/
  free : region rule = none → domain rule = none → ¬ BothAxes rules q
  /-- If both axes have rules, the name of a rule of one axis occurs on both. -/
  shared : BothAxes rules q → specificity rule = 1 → name rule ∈ sharedNames rules q
  /-- No constraining rule of the same scope matches better, where of two axes with rules only the names on
  both count. -/
  best : ∀ other ∈ rules, nonConstraining other = false → region other = region rule →
    domain other = domain rule →
    (BothAxes rules q → specificity rule = 1 → name other ∈ sharedNames rules q) →
    ∀ score otherScore, matchScore? (name rule) requested = some score →
      matchScore? (name other) requested = some otherScore → score.lt otherScore = false

variable {rules : List ρ} {q : Query} {rule other : ρ} {requested : String}

/-! ## How narrow the scopes are -/

/-- Rules of the narrowest scope state both axes. -/
theorem specificity_of_mem_exactRules (h : rule ∈ exactRules rules q) : specificity rule = 2 := by
  obtain ⟨-, -, hs, -, hr⟩ := mem_exactRules.mp h
  unfold specificity
  rw [hr, hs]
  rfl

/-- Rules for the region alone state one axis. -/
theorem specificity_of_mem_regionRules (h : rule ∈ regionRules rules q) : specificity rule = 1 := by
  obtain ⟨-, -, hd, hr⟩ := mem_regionRules.mp h
  unfold specificity
  rw [hd, hr]
  rfl

/-- Rules for the domain alone state one axis, the other one. -/
theorem specificity_of_mem_domainRules (h : rule ∈ domainRules rules q) : specificity rule = 1 := by
  obtain ⟨-, -, hs, -, hr⟩ := mem_domainRules.mp h
  unfold specificity
  rw [hr, hs]
  rfl

/-- Rules for everything state no axis. -/
theorem specificity_of_mem_everywhereRules (h : rule ∈ Scope.everywhere.rules rules) :
    specificity rule = 0 := by
  obtain ⟨-, -, hd, hr⟩ := mem_everywhereRules.mp h
  unfold specificity
  rw [hd, hr]
  rfl

/-- Shared rules come from one of the two axes, so they state one, whichever it is. -/
theorem specificity_of_mem_sharedRules (h : rule ∈ sharedRules rules q) : specificity rule = 1 := by
  rcases (mem_sharedRules.mp h).1 with hr | hd
  · exact specificity_of_mem_regionRules hr
  · exact specificity_of_mem_domainRules hd

/-- What is narrower than an axis has the exact scope. -/
theorem mem_exactRules_of_specificity (hmem : other ∈ rules) (hc : nonConstraining other = false)
    (hq : q.includes other = true) (h : 1 < specificity other) : other ∈ exactRules rules q := by
  rcases mem_scopes_iff.mpr ⟨hmem, hc, hq⟩ with he | hr | hd | hg
  · exact he
  · exact absurd (specificity_of_mem_regionRules hr) (by omega)
  · exact absurd (specificity_of_mem_domainRules hd) (by omega)
  · exact absurd (specificity_of_mem_everywhereRules hg) (by omega)

/-! ## A found rule has precedence -/

namespace FoundIn

/-- A rule is found only if no rule that states more axes matches: the scopes of such rules are searched
before, and their searches found nothing. -/
theorem narrowest (h : FoundIn rules q requested rule) (hmem : other ∈ rules)
    (hc : nonConstraining other = false) (hq : q.includes other = true)
    (hlt : specificity rule < specificity other) : matchScore? (name other) requested = none := by
  -- a rule of one axis is beaten by the exact scope alone
  have of_axis (noExact : Unmatched requested (ruleNames (exactRules rules q)))
      (hrule : specificity rule = 1) : matchScore? (name other) requested = none :=
    unmatched_ruleNames.mp noExact other
      (mem_exactRules_of_specificity hmem hc hq (by omega))
  cases h with
  | inExact best =>
    have hrule := specificity_of_mem_exactRules best.mem
    have hother := specificity_of_mem_exactRules
      (mem_exactRules_of_specificity hmem hc hq (by omega))
    omega
  | inRegion noExact _ best => exact of_axis noExact (specificity_of_mem_regionRules best.mem)
  | inDomain noExact _ best => exact of_axis noExact (specificity_of_mem_domainRules best.mem)
  | byAgreement noExact _ _ best => exact of_axis noExact (specificity_of_mem_regionRules best.mem)
  | inShared noExact _ best => exact of_axis noExact (specificity_of_mem_sharedRules best.mem)
  | inEverywhere noExact _ noRegion noDomain best =>
    have hrule := specificity_of_mem_everywhereRules best.mem
    rcases mem_scopes_iff.mpr ⟨hmem, hc, hq⟩ with he | hr | hd | hg
    · exact unmatched_ruleNames.mp noExact other he
    · exact unmatched_ruleNames.mp noRegion other hr
    · exact unmatched_ruleNames.mp noDomain other hd
    · have hother := specificity_of_mem_everywhereRules hg
      omega

/-- A rule for everything is found only if not both axes have rules, since else its scope is not searched.
-/
theorem free (h : FoundIn rules q requested rule) (hr : region rule = none)
    (hd : domain rule = none) : ¬ BothAxes rules q := by
  have hrule : specificity rule = 0 := by
    unfold specificity
    rw [hr, hd]
    rfl
  cases h with
  | inExact best => exact absurd (specificity_of_mem_exactRules best.mem) (by omega)
  | inRegion _ free _ => exact free
  | inDomain _ free _ => exact free
  | inEverywhere _ free _ _ _ => exact free
  | byAgreement _ _ _ best => exact absurd (specificity_of_mem_regionRules best.mem) (by omega)
  | inShared _ _ best => exact absurd (specificity_of_mem_sharedRules best.mem) (by omega)

/-- If both axes have rules, a rule of one axis is found only under a name that the other axis has as well.
-/
theorem shared_name (h : FoundIn rules q requested rule) (hboth : BothAxes rules q)
    (hone : specificity rule = 1) : name rule ∈ sharedNames rules q := by
  cases h with
  | inExact best => exact absurd (specificity_of_mem_exactRules best.mem) (by omega)
  | inRegion _ free _ => exact absurd hboth free
  | inDomain _ free _ => exact absurd hboth free
  | inEverywhere _ free _ _ _ => exact absurd hboth free
  | byAgreement _ _ shared _ => exact shared
  | inShared _ _ best => exact (mem_sharedRules.mp best.mem).2

/-- Of the rules that state the same as the one that is found, none matches better. Where both axes have
rules, this is said of rules with a shared name only, since others are not searched. -/
theorem best (h : FoundIn rules q requested rule) (hmem : other ∈ rules)
    (hc : nonConstraining other = false) (hr : region other = region rule)
    (hd : domain other = domain rule)
    (hshared : BothAxes rules q → specificity rule = 1 → name other ∈ sharedNames rules q)
    {score otherScore : MatchScore} (hs : matchScore? (name rule) requested = some score)
    (ht : matchScore? (name other) requested = some otherScore) :
    score.lt otherScore = false := by
  -- a rule with the scope of another stands in every scope that the other stands in
  have of_exact (h : rule ∈ exactRules rules q) : other ∈ exactRules rules q := by
    rw [mem_exactRules] at h ⊢
    rw [hr, hd]
    exact ⟨hmem, hc, h.2.2⟩
  have of_region (h : rule ∈ regionRules rules q) : other ∈ regionRules rules q := by
    rw [mem_regionRules] at h ⊢
    rw [hr, hd]
    exact ⟨hmem, hc, h.2.2⟩
  have of_domain (h : rule ∈ domainRules rules q) : other ∈ domainRules rules q := by
    rw [mem_domainRules] at h ⊢
    rw [hr, hd]
    exact ⟨hmem, hc, h.2.2⟩
  cases h with
  | inExact best => exact best.best score hs other (of_exact best.mem) otherScore ht
  | inRegion _ _ best => exact best.best score hs other (of_region best.mem) otherScore ht
  | inDomain _ _ best => exact best.best score hs other (of_domain best.mem) otherScore ht
  | byAgreement _ _ _ best => exact best.best score hs other (of_region best.mem) otherScore ht
  | inEverywhere _ _ _ _ best =>
    have hother : other ∈ Scope.everywhere.rules rules := by
      have hrule := mem_everywhereRules.mp best.mem
      rw [mem_everywhereRules, hr, hd]
      exact ⟨hmem, hc, hrule.2.2⟩
    exact best.best score hs other hother otherScore ht
  | inShared _ both best =>
    have hother : other ∈ sharedRules rules q :=
      mem_sharedRules.mpr ⟨(mem_sharedRules.mp best.mem).1.imp of_region of_domain,
        hshared both (specificity_of_mem_sharedRules best.mem)⟩
    exact best.best score hs other hother otherScore ht

/-- The parts of the law put together for one rule that is found. -/
theorem precedence (h : FoundIn rules q requested rule) : Precedence rules q requested rule where
  narrowest := fun _ hmem hc hq hlt => h.narrowest hmem hc hq hlt
  free := h.free
  shared := h.shared_name
  best := fun _ hmem hc hr hd hshared _ _ hs ht => h.best hmem hc hr hd hshared hs ht

end FoundIn

/-! ## Rules that do not constrain -/

/-- Scopes hold constraining rules only, so that dropping the others changes nothing in them. -/
@[simp] theorem scopeRules_constrainingRules (s : Scope) (rules : List ρ) :
    s.rules (constrainingRules rules) = s.rules rules := by
  apply scopeRules_filter
  intro rule hrule
  rw [(mem_scopeRules.mp hrule).2.1]
  rfl

/-- The same of the rules for the domain of a request. -/
@[simp] theorem rulesOfDomain_constrainingRules (rules : List ρ) (q : Query) (r : Option String) :
    rulesOfDomain (constrainingRules rules) q r = rulesOfDomain rules q r := by
  unfold rulesOfDomain
  cases q.domain with
  | none => rfl
  | some d => exact scopeRules_constrainingRules _ _

/-- Hence the names that are searched are those of the list without the rules that do not constrain. -/
theorem searchedNames_constrainingRules (rules : List ρ) (q : Query) :
    searchedNames (constrainingRules rules) q = searchedNames rules q := by
  unfold searchedNames exactRules domainRules regionRules sharedNames commonNames
  simp only [scopeRules_constrainingRules, rulesOfDomain_constrainingRules]

/-- Among constraining rules there are no additional ones. -/
theorem additionalRules_constrainingRules (rules : List ρ) (q : Query) :
    additionalRules (constrainingRules rules) q = [] := by
  unfold additionalRules constrainingRules
  rw [List.filter_filter, List.filter_eq_nil_iff]
  intro rule _
  cases nonConstraining rule <;> simp

/-- Where no searched name matches, the constraining rules alone refuse. -/
theorem resolve_constrainingRules_of_unmatched
    (h : Unmatched requested (searchedNames rules q)) :
    ∃ supported, resolve (constrainingRules rules) q requested = .error supported := by
  refine ⟨_, resolve_eq_error_iff.mpr ⟨unmatched_supportedNames.mpr ⟨?_, ?_⟩, rfl⟩⟩
  · rw [searchedNames_constrainingRules]
    exact h
  · rw [additionalRules_constrainingRules]
    exact unmatched_nil requested

/-- The additional rules of a request are those that do not constrain and count for it, whatever their scope
is. -/
theorem mem_additionalRules :
    rule ∈ additionalRules rules q ↔
      rule ∈ rules ∧ nonConstraining rule = true ∧ q.includes rule = true := by
  simp [additionalRules]

/-! ## Every rule that is found -/

/-- **A resolution is sound and prefers what is specific**: the rule is one of the list, states nothing that the
request does not have, and matches. If it constrains, it has precedence over all other constraining rules; if
it does not, the constraining rules alone refuse the name. -/
theorem precedence_of_resolve_eq_ok (h : resolve rules q requested = .ok rule) :
    rule ∈ rules ∧
      (∀ r, region rule = some r → r = q.region) ∧
      (∀ d, domain rule = some d → q.domain = some d) ∧
      (matchScore? (name rule) requested).isSome ∧
      (nonConstraining rule = false → Precedence rules q requested rule) ∧
      (nonConstraining rule = true →
        ∃ supported, resolve (constrainingRules rules) q requested = .error supported) := by
  -- the rule constrains in the first case and not in the second, so one of the last two parts is empty
  obtain hfound | ⟨hnone, best⟩ := resolve_eq_ok h
  · obtain ⟨hmem, hc, hq⟩ := mem_scopes_iff.mp hfound.mem_scopes
    obtain ⟨hr, hd⟩ := states_of_includes hq
    refine ⟨hmem, hr, hd, hfound.hit, fun _ => hfound.precedence, ?_⟩
    rw [hc]
    exact fun hfalse => absurd hfalse Bool.false_ne_true
  · obtain ⟨hmem, hn, hq⟩ := mem_additionalRules.mp best.mem
    obtain ⟨hr, hd⟩ := states_of_includes hq
    refine ⟨hmem, hr, hd, best.hit, ?_, fun _ => resolve_constrainingRules_of_unmatched hnone⟩
    rw [hn]
    exact fun hfalse => absurd hfalse.symm Bool.false_ne_true

/-- Both axes admit the name under a wildcard of their own and under a shared one. The shared one answers, and
of its two rules that of the region, which comes first. -/
theorem precedence_poolsOnBothAxes :
    resolve poolsOnBothAxes ⟨"r1", some "d1"⟩ "fip-eu-1" =
        .ok ⟨"fip-*", some "r1", none, none, none, []⟩ ∧
      Precedence poolsOnBothAxes ⟨"r1", some "d1"⟩ "fip-eu-1"
        (⟨"fip-*", some "r1", none, none, none, []⟩ : FloatingPool) :=
  have h : resolve poolsOnBothAxes ⟨"r1", some "d1"⟩ "fip-eu-1" =
      .ok ⟨"fip-*", some "r1", none, none, none, []⟩ := rfl
  ⟨h, (precedence_of_resolve_eq_ok h).2.2.2.2.1 rfl⟩

end OpenstackAdmission
