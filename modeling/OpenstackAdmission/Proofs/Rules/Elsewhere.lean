import OpenstackAdmission.Proofs.Rules.Dropping
import OpenstackAdmission.Proofs.Rules.Supported

/-!
# Rules of other regions and domains

A rule that states a region or a domain which the request does not have says nothing about the request: neither
by what it admits nor by being there, as a rule that constrains an axis of the request does.

> `answersAlike_counting`: every name is answered as if the rules from elsewhere were not there, and whatever is
done to them changes no answer.

> `answersAlike_of_unstated`: a domain that no rule states makes no difference to a region.

An answer is the rule that is found, or the error with the names that are supported. Rules may hold anything
beside what a search reads, their place in the list for one; so an answer is the same rule and not only an equal
one.
-/

namespace OpenstackAdmission

open ScopedRule

variable {ρ : Type} [ScopedRule ρ]

/-- Every name is answered alike, with the same rule or with the same error, wherever the name stands. -/
structure AnswersAlike (rules : List ρ) (q : Query) (others : List ρ) (p : Query) : Prop where
  resolves : ∀ requested, resolve rules q requested = resolve others p requested
  reports : ∀ requested path,
    checkResolves rules q requested path = checkResolves others p requested path

/-- The rule states a region or a domain that the request does not have. -/
def IsElsewhere (q : Query) (rule : ρ) : Prop :=
  (∃ r, region rule = some r ∧ r ≠ q.region) ∨ ∃ d, domain rule = some d ∧ q.domain ≠ some d

/-- A rule from elsewhere comes, goes, or gives way to another one from elsewhere, anywhere in the list. -/
inductive EditElsewhere (q : Query) : List ρ → List ρ → Prop where
  | insert (before after : List ρ) {rule : ρ} (h : IsElsewhere q rule) :
    EditElsewhere q (before ++ after) (before ++ rule :: after)
  | remove (before after : List ρ) {rule : ρ} (h : IsElsewhere q rule) :
    EditElsewhere q (before ++ rule :: after) (before ++ after)
  | replace (before after : List ρ) {rule other : ρ} (h : IsElsewhere q rule)
    (hother : IsElsewhere q other) :
    EditElsewhere q (before ++ rule :: after) (before ++ other :: after)

/-- Any number of such edits, one after the other. -/
inductive EditsElsewhere (q : Query) (rules : List ρ) : List ρ → Prop where
  | none : EditsElsewhere q rules rules
  | more {between edited : List ρ} (h : EditsElsewhere q rules between)
    (hedit : EditElsewhere q between edited) : EditsElsewhere q rules edited

variable {rules others : List ρ} {q p : Query} {rule : ρ}

/-- Lists that resolve every name alike answer alike: the check of a name reports what its resolution
refuses, and nothing else. -/
theorem AnswersAlike.of_resolve (h : ∀ requested, resolve rules q requested = resolve others p requested) :
    AnswersAlike rules q others p := by
  refine ⟨h, ?_⟩
  intro requested path
  unfold checkResolves
  rw [h requested]

/-! ## Rules from elsewhere -/

/-- The rules from elsewhere are those that do not count. -/
theorem isElsewhere_iff : IsElsewhere q rule ↔ q.includes rule = false := by
  unfold IsElsewhere Query.includes
  rw [Bool.and_eq_false_iff]
  refine or_congr ?_ ?_
  · cases region rule <;> simp
  · cases domain rule <;> simp

/-- Lists with the same rules that count for a request answer it alike. -/
theorem answersAlike_of_filter_eq (h : rules.filter q.includes = others.filter q.includes) :
    AnswersAlike rules q others q := by
  apply AnswersAlike.of_resolve
  intro requested
  have hkept (list : List ρ) :
      resolve (list.filter q.includes) q requested = resolve list q requested :=
    resolve_filter (fun _ _ hq => hq) requested
  rw [← hkept rules, h, hkept others]

/-- One edit elsewhere leaves the rules that count as they are. -/
theorem EditElsewhere.filter_eq (h : EditElsewhere q rules others) :
    others.filter q.includes = rules.filter q.includes := by
  have hdropped (before after : List ρ) {rule : ρ} (hrule : IsElsewhere q rule) :
      (before ++ rule :: after).filter q.includes = (before ++ after).filter q.includes := by
    have hnot : ¬ q.includes rule = true := by
      rw [isElsewhere_iff.mp hrule]
      exact Bool.false_ne_true
    rw [List.filter_append, List.filter_cons_of_neg hnot, ← List.filter_append]
  cases h with
  | insert before after hrule => exact hdropped before after hrule
  | remove before after hrule => exact (hdropped before after hrule).symm
  | replace before after hrule hother =>
    rw [hdropped before after hrule, hdropped before after hother]

/-- Any number of edits elsewhere do. -/
theorem EditsElsewhere.filter_eq (h : EditsElsewhere q rules others) :
    others.filter q.includes = rules.filter q.includes := by
  induction h with
  | none => rfl
  | more _ hedit ih => rw [hedit.filter_eq, ih]

/-- **Rules from elsewhere cannot interfere.** Every name is answered as in the list of the rules that count for
the request, and no edits of rules from elsewhere, constraining or not, change an answer. -/
theorem answersAlike_counting (rules : List ρ) (q : Query) :
    AnswersAlike rules q (rules.filter q.includes) q ∧
      ∀ edited, EditsElsewhere q rules edited → AnswersAlike edited q rules q := by
  constructor
  · apply answersAlike_of_filter_eq
    rw [List.filter_filter]
    simp only [Bool.and_self]
  · intro edited hedits
    exact answersAlike_of_filter_eq hedits.filter_eq

/-- The two axes of a request, with a pool for another domain in front, which would be a third wildcard on the
axis of the domain, and a pool for another region behind, which does not constrain. -/
theorem answersAlike_poolsOnBothAxes :
    let q : Query := ⟨"r1", some "d1"⟩
    let edited : List FloatingPool :=
      ⟨"*", none, some "d2", none, none, []⟩ :: poolsOnBothAxes
        ++ [⟨"spare", some "r2", none, none, some true, []⟩]
    EditsElsewhere q poolsOnBothAxes edited ∧ AnswersAlike edited q poolsOnBothAxes q := by
  intro q edited
  have hfront : EditElsewhere q poolsOnBothAxes
      (⟨"*", none, some "d2", none, none, []⟩ :: poolsOnBothAxes) :=
    .insert [] poolsOnBothAxes (.inr ⟨"d2", rfl, by decide⟩)
  have hbehind : EditElsewhere q (⟨"*", none, some "d2", none, none, []⟩ :: poolsOnBothAxes) edited :=
    .insert (⟨"*", none, some "d2", none, none, []⟩ :: poolsOnBothAxes) []
      (.inl ⟨"r2", rfl, by decide⟩)
  have hedits : EditsElsewhere q poolsOnBothAxes edited := .more (.more .none hfront) hbehind
  exact ⟨hedits, (answersAlike_counting poolsOnBothAxes q).2 edited hedits⟩

/-! ## A domain that no rule states -/

/-- No rule states the domain of the request, if it has one. -/
def DomainUnstated (rules : List ρ) (q : Query) : Prop :=
  ∀ rule ∈ rules, (domain rule).isSome → domain rule ≠ q.domain

/-- If no rule states the domain of the request, there are no rules for it, neither with a region nor
without. -/
theorem rulesOfDomain_of_unstated (h : DomainUnstated rules q) (r : Option String) :
    rulesOfDomain rules q r = [] := by
  apply List.eq_nil_iff_forall_not_mem.mpr
  intro rule hrule
  obtain ⟨hmem, -, hsome, hdomain, -⟩ := mem_rulesOfDomain.mp hrule
  exact h rule hmem hsome hdomain

/-- The search of a domain that no rule states is that of the region: the exact scope and one axis have no
rules. -/
theorem resolveConstrained_of_unstated (h : DomainUnstated rules q) (requested : String) :
    resolveConstrained rules q requested = resolveInRegion rules q.region requested := by
  have hfree : ¬ BothAxes rules q := fun hboth => hboth.2 (rulesOfDomain_of_unstated h none)
  have hexact : exactRules rules q = [] := rulesOfDomain_of_unstated h (some q.region)
  have hdomain : domainRules rules q = [] := rulesOfDomain_of_unstated h none
  rw [resolveConstrained_of_free hfree, hexact, hdomain]
  simp only [searchThen_nil]
  rfl

/-- **A domain that no rule states makes no difference.** Every name is answered as without a domain. -/
theorem answersAlike_of_unstated {d : String} (h : ∀ rule ∈ rules, domain rule ≠ some d)
    (r : String) : AnswersAlike rules ⟨r, some d⟩ rules ⟨r, none⟩ := by
  have hstated : DomainUnstated rules ⟨r, some d⟩ := fun rule hmem _ => h rule hmem
  have hnone : DomainUnstated rules ⟨r, none⟩ := by
    intro rule _ hsome heq
    rw [heq] at hsome
    cases hsome
  have hadditional : additionalRules rules ⟨r, some d⟩ = additionalRules rules ⟨r, none⟩ := by
    unfold additionalRules
    apply List.filter_congr
    intro rule hmem
    -- a rule without a domain counts for both, and one with another domain for neither
    unfold Query.includes
    cases hd : domain rule with
    | none => rfl
    | some other =>
      have hother : d ≠ other := fun heq => h rule hmem (hd.trans (congrArg some heq.symm))
      simp [hother]
  apply AnswersAlike.of_resolve
  intro requested
  unfold resolve
  rw [resolveConstrained_of_unstated hstated, resolveConstrained_of_unstated hnone, hadditional]

/-- A request from a third domain, where the pools for the domain alone constrain nothing any more and the pool
for everything is reached. -/
theorem answersAlike_thirdDomain :
    (∀ rule ∈ poolsOnBothAxes, domain rule ≠ some "d3") ∧
      resolve poolsOnBothAxes ⟨"r1", some "d3"⟩ "global" =
        .ok ⟨"global", none, none, none, none, []⟩ ∧
      AnswersAlike poolsOnBothAxes ⟨"r1", some "d3"⟩ poolsOnBothAxes ⟨"r1", none⟩ := by
  have h : ∀ rule ∈ poolsOnBothAxes, domain rule ≠ some "d3" := by decide
  exact ⟨h, rfl, answersAlike_of_unstated h "r1"⟩

end OpenstackAdmission
