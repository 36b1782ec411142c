import OpenstackAdmission.Rules.Resolve

/-!
# Searches

What one search over a list of rules finds. A search finds nothing exactly where no name of the list matches
(`bestRule_eq_none_iff`); what it finds is a rule of the list with a score that no rule of the list exceeds
(`isBest_of_bestRule`), and the first such rule (`bestMatch_split`).

A resolution is a chain of such searches. `searchThen_eq_ok_iff` and `searchThen_eq_error_iff` say what one
link of the chain does: it answers with its own best rule, or it has none and hands its names on.
-/

namespace OpenstackAdmission

open ScopedRule

variable {ρ : Type} [ScopedRule ρ]

/-- None of the patterns matches the name. -/
def Unmatched (requested : String) (patterns : List String) : Prop :=
  ∀ pattern ∈ patterns, matchScore? pattern requested = none

instance (requested : String) (patterns : List String) :
    Decidable (Unmatched requested patterns) :=
  inferInstanceAs (Decidable (∀ pattern ∈ patterns, matchScore? pattern requested = none))

/-- No rule of the list matches the name with a better score. -/
def NoneBetter (requested : String) (rules : List ρ) (score : MatchScore) : Prop :=
  ∀ rule ∈ rules, ∀ s, matchScore? (name rule) requested = some s → score.lt s = false

/-- Every rule of the list that matches the name has a worse score. -/
def AllWorse (requested : String) (rules : List ρ) (score : MatchScore) : Prop :=
  ∀ rule ∈ rules, ∀ s, matchScore? (name rule) requested = some s → s.lt score = true

/-- A rule of the list which matches the name, and no rule of the list matches it better. -/
structure IsBest (requested : String) (rules : List ρ) (rule : ρ) : Prop where
  mem : rule ∈ rules
  hit : (matchScore? (name rule) requested).isSome
  best : ∀ score, matchScore? (name rule) requested = some score →
    NoneBetter requested rules score

/-! ## Patterns that do not match -/

@[simp] theorem unmatched_nil (requested : String) : Unmatched requested [] := by
  intro pattern h
  cases h

/-- Nothing in two lists matches exactly if nothing in either does; this is how the names that were searched
so far are carried from one search to the next. -/
theorem unmatched_append {requested : String} {xs ys : List String} :
    Unmatched requested (xs ++ ys) ↔ Unmatched requested xs ∧ Unmatched requested ys :=
  List.forall_mem_append

/-- Whether a name is matched does not depend on the order or the number of patterns. -/
theorem unmatched_congr {requested : String} {xs ys : List String} (h : ∀ v, v ∈ xs ↔ v ∈ ys) :
    Unmatched requested xs ↔ Unmatched requested ys :=
  forall_congr' fun v => by rw [h v]

/-- If not nothing matches, some pattern of the list does. -/
theorem not_unmatched_iff {requested : String} {patterns : List String} :
    ¬ Unmatched requested patterns ↔
      ∃ pattern ∈ patterns, (matchScore? pattern requested).isSome := by
  constructor
  · intro h
    refine Decidable.byContradiction fun hnone => h fun pattern hp => ?_
    exact Option.not_isSome_iff_eq_none.mp fun hsome => hnone ⟨pattern, hp, hsome⟩
  · rintro ⟨pattern, hp, hsome⟩ h
    rw [h pattern hp] at hsome
    cases hsome

theorem mem_ruleNames {v : String} {rules : List ρ} :
    v ∈ ruleNames rules ↔ ∃ rule ∈ rules, name rule = v :=
  List.mem_map

/-- No name of some rules matches exactly if every single rule has no score for the request. -/
theorem unmatched_ruleNames {requested : String} {rules : List ρ} :
    Unmatched requested (ruleNames rules) ↔
      ∀ rule ∈ rules, matchScore? (name rule) requested = none :=
  List.forall_mem_map

/-! ## The best match -/

/-- A search finds nothing exactly if no name matches. The induction is on the rules; a match at the front
is found whatever the rest gives. -/
theorem bestMatch_eq_none_iff {requested : String} {rules : List ρ} :
    bestMatch requested rules = none ↔ Unmatched requested (ruleNames rules) := by
  rw [unmatched_ruleNames]
  induction rules with
  | nil => simp [bestMatch]
  | cons rule rest ih =>
    rw [List.forall_mem_cons, ← ih]
    rw [bestMatch]
    cases hrule : matchScore? (name rule) requested with
    | none => simp
    | some score =>
      cases hrest : bestMatch requested rest with
      | none => simp
      | some found =>
        dsimp only
        split <;> simp

/-- To be beaten by no rule of a list means to be beaten neither by its first rule nor by one of the others.
-/
theorem noneBetter_cons {requested : String} {rule : ρ} {rules : List ρ} {score : MatchScore} :
    NoneBetter requested (rule :: rules) score ↔
      (∀ s, matchScore? (name rule) requested = some s → score.lt s = false) ∧
        NoneBetter requested rules score :=
  List.forall_mem_cons

/-- What does not match beats nothing. -/
theorem noneBetter_of_unmatched {requested : String} {rules : List ρ} {score : MatchScore}
    (h : Unmatched requested (ruleNames rules)) : NoneBetter requested rules score := by
  intro rule hmem s hs
  rw [unmatched_ruleNames.mp h rule hmem] at hs
  cases hs

/-- Where all matches are worse, none is better: the order of scores is strict. -/
theorem noneBetter_of_allWorse {requested : String} {rules : List ρ} {score : MatchScore}
    (h : AllWorse requested rules score) : NoneBetter requested rules score :=
  fun rule hmem s hs => MatchScore.not_lt_of_lt (h rule hmem s hs)

/-- A score that is met, and before which all are worse and behind which none is better, is the best. -/
theorem noneBetter_of_split {requested : String} {before after : List ρ} {rule : ρ}
    {score : MatchScore} (hscore : matchScore? (name rule) requested = some score)
    (hbefore : AllWorse requested before score) (hafter : NoneBetter requested after score) :
    NoneBetter requested (before ++ rule :: after) score := by
  refine List.forall_mem_append.mpr ⟨noneBetter_of_allWorse hbefore, noneBetter_cons.mpr ⟨?_, hafter⟩⟩
  simp [hscore, MatchScore.lt_irrefl]

/-- The score that a search carries is that of its rule, all rules before it are worse, and none behind it is
better. The induction is on the list: the head wins unless the best of the rest is better. -/
theorem bestMatch_split {requested : String} {rules : List ρ} {rule : ρ} {score : MatchScore}
    (h : bestMatch requested rules = some (rule, score)) :
    ∃ before after, rules = before ++ rule :: after ∧
      matchScore? (name rule) requested = some score ∧
      AllWorse requested before score ∧ NoneBetter requested after score := by
  induction rules generalizing rule score with
  | nil => cases h
  | cons first rest ih =>
    rw [bestMatch] at h
    -- a head that does not match changes nothing, as it is beaten by every score
    cases hfirst : matchScore? (name first) requested with
    | none =>
      rw [hfirst] at h
      obtain ⟨before, after, rfl, hscore, hbefore, hafter⟩ := ih h
      refine ⟨first :: before, after, rfl, hscore, ?_, hafter⟩
      exact List.forall_mem_cons.mpr ⟨by simp [hfirst], hbefore⟩
    | some headScore =>
      rw [hfirst] at h
      cases hrest : bestMatch requested rest with
      | none =>
        rw [hrest] at h
        obtain ⟨rfl, rfl⟩ := Prod.mk.inj (Option.some.inj h)
        refine ⟨[], rest, rfl, hfirst, fun _ hmem => absurd hmem List.not_mem_nil, ?_⟩
        exact noneBetter_of_unmatched (bestMatch_eq_none_iff.mp hrest)
      | some found =>
        obtain ⟨restRule, restScore⟩ := found
        obtain ⟨before, after, rfl, hscore, hbefore, hafter⟩ := ih hrest
        rw [hrest] at h
        dsimp only at h
        by_cases hlt : headScore.lt restScore = true
        · -- the best of the rest is better than the head
          rw [if_pos hlt] at h
          obtain ⟨rfl, rfl⟩ := Prod.mk.inj (Option.some.inj h)
          refine ⟨first :: before, after, rfl, hscore, ?_, hafter⟩
          exact List.forall_mem_cons.mpr ⟨by simp [hfirst, hlt], hbefore⟩
        · -- the head is as good as the best of the rest, and so as all of it
          have hge : headScore.lt restScore = false := Bool.eq_false_iff.mpr hlt
          rw [if_neg hlt] at h
          obtain ⟨rfl, rfl⟩ := Prod.mk.inj (Option.some.inj h)
          refine ⟨[], _, rfl, hfirst, fun _ hmem => absurd hmem List.not_mem_nil, ?_⟩
          intro other hother s hs
          exact MatchScore.not_lt_trans hge (noneBetter_of_split hscore hbefore hafter other hother s hs)

/-- What a search finds is a rule of the list, with its score, which no other rule beats. The induction is
on the rules, and the score at the front is compared with the best of the rest. -/
theorem bestMatch_spec {requested : String} {rules : List ρ} {rule : ρ} {score : MatchScore}
    (h : bestMatch requested rules = some (rule, score)) :
    rule ∈ rules ∧ matchScore? (name rule) requested = some score ∧
      NoneBetter requested rules score := by
  obtain ⟨before, after, rfl, hscore, hbefore, hafter⟩ := bestMatch_split h
  exact ⟨List.mem_append_right _ (.head _), hscore, noneBetter_of_split hscore hbefore hafter⟩

/-- The rule without its score is missing in the same cases. -/
theorem bestRule_eq_none_iff {requested : String} {rules : List ρ} :
    bestRule requested rules = none ↔ Unmatched requested (ruleNames rules) := by
  rw [bestRule, Option.map_eq_none_iff, bestMatch_eq_none_iff]

/-- The rule that a search finds is a best one; that it is the first of them is not said here. -/
theorem isBest_of_bestRule {requested : String} {rules : List ρ} {rule : ρ}
    (h : bestRule requested rules = some rule) : IsBest requested rules rule := by
  obtain ⟨⟨found, score⟩, hfound, rfl⟩ := Option.map_eq_some_iff.mp h
  obtain ⟨hmem, hscore, hbest⟩ := bestMatch_spec hfound
  refine ⟨hmem, by rw [hscore]; rfl, ?_⟩
  intro s hs
  rw [hscore] at hs
  exact Option.some.inj hs ▸ hbest

/-- A search that finds a rule has a name that matches. -/
theorem not_unmatched_of_bestRule {requested : String} {rules : List ρ} {rule : ρ}
    (h : bestRule requested rules = some rule) : ¬ Unmatched requested (ruleNames rules) := by
  rw [← bestRule_eq_none_iff, h]
  exact Option.some_ne_none rule

@[simp] theorem bestRule_nil (requested : String) :
    bestRule requested ([] : List ρ) = none := rfl

/-! ## Chains of searches -/

variable {requested : String} {rules : List ρ} {searched : List String}
  {next : List String → Except (List String) ρ}

/-- A chain of searches has a result in two ways: the first search finds it, or it finds nothing and the
rest of the chain does. -/
theorem searchThen_eq_ok_iff {rule : ρ} :
    searchThen requested rules searched next = .ok rule ↔
      bestRule requested rules = some rule ∨
        Unmatched requested (ruleNames rules) ∧ next (searched ++ ruleNames rules) = .ok rule := by
  unfold searchThen
  cases h : bestRule requested rules with
  | none => simp [bestRule_eq_none_iff.mp h]
  | some found => simp [not_unmatched_of_bestRule h]

/-- A chain of searches fails only if its first search finds nothing; what was searched is handed on. -/
theorem searchThen_eq_error_iff {supported : List String} :
    searchThen requested rules searched next = .error supported ↔
      Unmatched requested (ruleNames rules) ∧
        next (searched ++ ruleNames rules) = .error supported := by
  unfold searchThen
  cases h : bestRule requested rules with
  | none => simp [bestRule_eq_none_iff.mp h]
  | some found => simp [not_unmatched_of_bestRule h]

/-- A list without rules is passed over. -/
@[simp] theorem searchThen_nil :
    searchThen requested ([] : List ρ) searched next = next searched := by
  simp [searchThen, ruleNames]

end OpenstackAdmission
