import OpenstackAdmission.Proofs.Rules.Insertion

/-!
# Rules that do not constrain

Rules that do not constrain are no part of the search by scope. Where the constraining rules refuse a name, all
of them that count for the request are searched at once, and the best match answers, whatever its scope.

> `firstOfBest_of_resolve`: a rule that does not constrain answers only before those that match worse, and before
those that match as well, have its name and are declared behind it.

So among them a narrower scope is no advantage, unlike among constraining rules (`Precedence`): a rule for
everything answers in place of one for the region or the domain if it matches better, or comes first under the
same name (`moreSpecific_passedOver`).
-/

namespace OpenstackAdmission

open ScopedRule

variable {ρ : Type} [ScopedRule ρ]

/-- A rule that does not constrain, counts for the request and matches the name. -/
structure Competes (q : Query) (requested : String) (rule : ρ) : Prop where
  additional : nonConstraining rule = true
  counts : q.includes rule = true
  hit : (matchScore? (name rule) requested).isSome

/-- The first rule matches the name, and the second one better. -/
def MatchesWorse (requested : String) (other rule : ρ) : Prop :=
  ∃ s score, matchScore? (name other) requested = some s ∧
    matchScore? (name rule) requested = some score ∧ s.lt score = true

/-- The first rule states all that the second states of region and domain, and more. -/
def MoreSpecific (other rule : ρ) : Prop :=
  (∀ r, region rule = some r → region other = some r) ∧
    (∀ d, domain rule = some d → domain other = some d) ∧
    (region rule = none ∧ (region other).isSome ∨ domain rule = none ∧ (domain other).isSome)

variable {rules : List ρ} {q : Query} {rule : ρ} {requested : String}

/-- An answer that does not constrain is the best match among the rules that do not. -/
theorem bestRule_of_resolve (h : resolve rules q requested = .ok rule)
    (hn : nonConstraining rule = true) :
    bestRule requested (additionalRules rules q) = some rule := by
  unfold resolve at h
  -- what is found among the constraining rules constrains, so the search has gone on
  cases hfound : resolveConstrained rules q requested with
  | ok found =>
    rw [hfound] at h
    obtain rfl := Except.ok.inj h
    have hc := (mem_scopes_iff.mp (foundIn_of_resolveConstrained hfound).mem_scopes).2.1
    rw [hn] at hc
    exact absurd hc.symm Bool.false_ne_true
  | error searched =>
    rw [hfound] at h
    dsimp only at h
    split at h
    · next found hadditional =>
      obtain rfl := Except.ok.inj h
      obtain hbest | ⟨-, herror⟩ := searchThen_eq_ok_iff.mp hadditional
      · exact hbest
      · cases herror
    · cases h

/-- What comes first among the rules that do not constrain comes first among all rules. -/
theorem exists_split_of_additionalRules {first last : List ρ}
    (h : additionalRules rules q = first ++ rule :: last) :
    ∃ before after, rules = before ++ rule :: after ∧
      additionalRules before q = first ∧ additionalRules after q = last := by
  unfold additionalRules at h ⊢
  obtain ⟨before, rest, rfl, hbefore, hrest⟩ := List.filter_eq_append_iff.mp h
  obtain ⟨skipped, after, rfl, hskipped, -, hafter⟩ := List.filter_eq_cons_iff.mp hrest
  refine ⟨before ++ skipped, after, (List.append_assoc ..).symm, ?_, hafter⟩
  rw [List.filter_append, hbefore, List.filter_eq_nil_iff.mpr hskipped, List.append_nil]

/-- A rule that competes for a request and is in the list is among the additional rules of that list, which
are searched last. -/
theorem Competes.mem_additionalRules {list : List ρ} (h : Competes q requested rule)
    (hmem : rule ∈ list) : rule ∈ additionalRules list q :=
  OpenstackAdmission.mem_additionalRules.mpr ⟨hmem, h.additional, h.counts⟩

/-- **The first of the best matches answers**, if it does not constrain: every other rule that could answer in its
place matches worse, or has the same name and is declared behind it. -/
theorem firstOfBest_of_resolve (h : resolve rules q requested = .ok rule)
    (hn : nonConstraining rule = true) :
    ∃ before after, rules = before ++ rule :: after ∧
      (∀ other ∈ before, Competes q requested other → MatchesWorse requested other rule) ∧
      (∀ other ∈ after, Competes q requested other →
        MatchesWorse requested other rule ∨ name other = name rule) := by
  obtain ⟨⟨_, score⟩, hfound, rfl⟩ := Option.map_eq_some_iff.mp (bestRule_of_resolve h hn)
  obtain ⟨first, last, hsplit, hscore, hfirst, hlast⟩ := bestMatch_split hfound
  obtain ⟨before, after, hrules, rfl, rfl⟩ := exists_split_of_additionalRules hsplit
  refine ⟨before, after, hrules, ?_, ?_⟩
  · intro other hmem hcompetes
    obtain ⟨s, hs⟩ := Option.isSome_iff_exists.mp hcompetes.hit
    exact ⟨s, score, hs, hscore, hfirst other (hcompetes.mem_additionalRules hmem) s hs⟩
  · intro other hmem hcompetes
    obtain ⟨s, hs⟩ := Option.isSome_iff_exists.mp hcompetes.hit
    have hbest := hlast other (hcompetes.mem_additionalRules hmem) s hs
    by_cases hlt : s.lt score = true
    · exact .inl ⟨s, score, hs, hscore, hlt⟩
    · -- equal scores are those of one name
      have hsame := MatchScore.eq_of_not_lt (Bool.eq_false_iff.mpr hlt) hbest
      exact .inr (eq_of_matchScore? hs (hsame ▸ hscore))

/-- A pool for everything between a wider one for the region and one of its own name for the region and the
domain. -/
def poolsBeside : List FloatingPool := [
  ⟨"fip-*", some "r1", none, none, some true, []⟩,
  ⟨"fip-eu*", none, none, none, some true, []⟩,
  ⟨"fip-eu*", some "r1", some "d1", none, some true, []⟩]

/-- The pool for everything answers. -/
theorem firstOfBest_poolsBeside :
    let q : Query := ⟨"r1", some "d1"⟩
    let everywhere : FloatingPool := ⟨"fip-eu*", none, none, none, some true, []⟩
    resolve poolsBeside q "fip-eu-1" = .ok everywhere ∧ nonConstraining everywhere = true ∧
      ∃ before after, poolsBeside = before ++ everywhere :: after ∧
        (∀ other ∈ before, Competes q "fip-eu-1" other → MatchesWorse "fip-eu-1" other everywhere) ∧
        (∀ other ∈ after, Competes q "fip-eu-1" other →
          MatchesWorse "fip-eu-1" other everywhere ∨ name other = name everywhere) :=
  ⟨rfl, rfl, firstOfBest_of_resolve rfl rfl⟩

/-- Two pools are passed over that match and are more specific than the answer, each of them in a way that no
order of declaration could prefer. -/
theorem moreSpecific_passedOver :
    ∃ rule ofRegion ofBoth : FloatingPool,
      resolve poolsBeside ⟨"r1", some "d1"⟩ "fip-eu-1" = .ok rule ∧ nonConstraining rule = true ∧
        ofRegion ∈ poolsBeside ∧ Competes ⟨"r1", some "d1"⟩ "fip-eu-1" ofRegion ∧
        MoreSpecific ofRegion rule ∧
        ofBoth ∈ poolsBeside ∧ Competes ⟨"r1", some "d1"⟩ "fip-eu-1" ofBoth ∧
        MoreSpecific ofBoth rule := by
  refine ⟨⟨"fip-eu*", none, none, none, some true, []⟩, ⟨"fip-*", some "r1", none, none, some true, []⟩,
    ⟨"fip-eu*", some "r1", some "d1", none, some true, []⟩, rfl, rfl, .head _, ⟨rfl, rfl, rfl⟩, ?_,
    .tail _ (.tail _ (.head _)), ⟨rfl, rfl, rfl⟩, ?_⟩
  all_goals
    -- the answer states neither a region nor a domain
    refine ⟨?_, ?_, .inl ⟨rfl, rfl⟩⟩
    · intro _ h
      cases h
    · intro _ h
      cases h

end OpenstackAdmission
