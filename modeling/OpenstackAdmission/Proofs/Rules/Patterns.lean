import OpenstackAdmission.Proofs.Rules.Order

/-!
# Patterns and their scores

A score is a number of characters, but it stands for a pattern: among the patterns that match one name, it tells which
one it is, and which other ones are wider.

> `faithfulScores`: for every name, patterns with one score are one pattern, so the best match of a search is one text,
whatever the rules are besides; and of two wildcards that match the name, the one with the higher score matches fewer
names, and only such names as the other one matches too.

The wildcards that match a name are its beginnings with a star behind, so that any two of them are comparable
(`narrower_of_stem`). A pattern that ends in `*` is also a name of its own, and patterns match themselves. For the
inclusion this makes no difference, since the text of the narrower pattern begins as the wider one demands. That the
inclusion is strict is seen at the stem of the wider pattern, which is too short for the narrower one; the wider pattern
itself would not do, as `**` matches `*` no less than `*` does.
-/

namespace OpenstackAdmission

open ScopedRule

/-- The pattern matches the name, literally or by its beginning. -/
def Matches (pattern name : String) : Prop := (matchScore? pattern name).isSome

instance (pattern name : String) : Decidable (Matches pattern name) :=
  inferInstanceAs (Decidable ((matchScore? pattern name).isSome = true))

/-- A pattern matches nothing but what the other one matches, and not all of it. -/
structure Narrower (narrow wide : String) : Prop where
  within : ∀ name, Matches narrow name → Matches wide name
  leaves : ∃ name, Matches wide name ∧ ¬ Matches narrow name

/-- What the scores of a name say about patterns. -/
structure FaithfulScores (requested : String) : Prop where
  eq_of_score : ∀ pattern other score, matchScore? pattern requested = some score →
    matchScore? other requested = some score → pattern = other
  /-- A search finds the only name of a rule that no rule beats. -/
  best_name : ∀ {ρ : Type} [ScopedRule ρ] (rules : List ρ) (rule other : ρ),
    bestRule requested rules = some rule → IsBest requested rules other → name other = name rule
  /-- Wildcards are ordered as the sets of names are that they match. -/
  lt_iff_narrower : ∀ wide narrow j k, matchScore? wide requested = some (.wildcard j) →
    matchScore? narrow requested = some (.wildcard k) → (j < k ↔ Narrower narrow wide)

variable {pattern wide narrow name requested : String} {stem short long : List Char} {j k : Nat}

/-- Of two patterns, at most one is narrower than the other: what the narrower one leaves out would have to
be within it. -/
theorem Narrower.asymm (h : Narrower narrow wide) : ¬ Narrower wide narrow := by
  intro hback
  obtain ⟨name, hwide, hnot⟩ := h.leaves
  exact hnot (hback.within name hwide)

/-- A pattern with a star at its end matches its own text and all names that begin with the stem. -/
theorem matches_iff_of_stem (h : pattern.toList = stem ++ ['*']) :
    Matches pattern name ↔ pattern = name ∨ stem <+: name.toList := by
  unfold Matches matchScore?
  by_cases heq : pattern = name
  · simp [heq]
  · rw [if_neg heq, stem?_eq_some_iff.mpr h]
    by_cases hbegin : stem.isPrefixOf name.toList = true
    · simp [hbegin, List.isPrefixOf_iff_prefix.mp hbegin]
    · have hnot : ¬ stem <+: name.toList := fun h => hbegin (List.isPrefixOf_iff_prefix.mpr h)
      simp [hbegin, heq, hnot]

/-- Of two stems with a star behind, one of which goes on where the other one ends, the longer one is narrower. -/
theorem narrower_of_stem (hwide : wide.toList = short ++ ['*']) (hnarrow : narrow.toList = long ++ ['*'])
    (hbegin : short <+: long) (hlt : short.length < long.length) : Narrower narrow wide := by
  constructor
  case within =>
    intro name hname
    rw [matches_iff_of_stem hwide]
    right
    rcases (matches_iff_of_stem hnarrow).mp hname with rfl | hlong
    · rw [hnarrow]
      exact hbegin.trans (List.prefix_append long ['*'])
    · exact hbegin.trans hlong
  case leaves =>
    refine ⟨String.ofList short, ?_, ?_⟩
    · rw [matches_iff_of_stem hwide, String.toList_ofList]
      exact .inr List.prefix_rfl
    · rw [matches_iff_of_stem hnarrow, String.toList_ofList]
      -- the shorter stem is a name that the wider pattern admits; the narrower one has too many
      -- characters for it
      rintro (rfl | hlong)
      · rw [String.toList_ofList] at hnarrow
        have hlength := congrArg List.length hnarrow
        rw [List.length_append] at hlength
        omega
      · have hle := hlong.length_le
        omega

/-- A wildcard that gives more characters of a name is narrower: of two beginnings of the name, the longer one goes on
where the other one ends. -/
theorem narrower_of_lt (hj : matchScore? wide requested = some (.wildcard j))
    (hk : matchScore? narrow requested = some (.wildcard k)) (hlt : j < k) : Narrower narrow wide := by
  obtain ⟨short, hwide, hshort, rfl⟩ := exists_stem_of_matchScore? hj
  obtain ⟨long, hnarrow, hlong, rfl⟩ := exists_stem_of_matchScore? hk
  have hbegin : short <+: long := List.prefix_of_prefix_length_le hshort hlong (Nat.le_of_lt hlt)
  exact narrower_of_stem hwide hnarrow hbegin hlt

/-- **Scores are a faithful order of the patterns that match a name.** -/
theorem faithfulScores (requested : String) : FaithfulScores requested := by
  constructor
  case eq_of_score =>
    intro pattern other score hscore hother
    exact eq_of_matchScore? hscore hother
  case best_name =>
    intro ρ _ rules rule other hrule hother
    have hbest : IsBest requested rules rule := isBest_of_bestRule hrule
    exact hbest.name_eq hother hother.mem hbest.mem
  case lt_iff_narrower =>
    intro wide narrow j k hwide hnarrow
    constructor
    · exact narrower_of_lt hwide hnarrow
    · intro h
      rcases Nat.lt_trichotomy j k with hlt | rfl | hlt
      · exact hlt
      · -- one pattern is not narrower than itself
        obtain rfl := eq_of_matchScore? hwide hnarrow
        exact absurd h h.asymm
      · exact absurd (narrower_of_lt hnarrow hwide hlt) h.asymm

/-- A literal match counts more than any wildcard, but it need not be narrower. -/
example : matchScore? "fip-*" "fip-*" = some .exact ∧ matchScore? "fip-**" "fip-*" = some (.wildcard 5) ∧
    Matches "fip-*" "fip-eu" ∧ ¬ Matches "fip-**" "fip-eu" := by decide

/-! Two rules with one pattern, and a wider one before them. -/

def poolsOfPatterns : List FloatingPool :=
  [⟨"zü*", none, none, none, none, []⟩, ⟨"zürich-*-*", none, none, none, none, []⟩,
    ⟨"zürich-*-*", some "r1", none, none, none, []⟩]

/-- Of the patterns for a name with a star in it, the one with the higher score is narrower, no other pattern has that
score, and every best rule for the name has that pattern. -/
theorem narrower_ofPoolsOfPatterns :
    Narrower "zürich-*-*" "zü*" ∧
      (∀ other, matchScore? other "zürich-*-1" = some (.wildcard 9) → other = "zürich-*-*") ∧
      ∀ other, IsBest "zürich-*-1" poolsOfPatterns other → other.name = "zürich-*-*" := by
  have hwide : matchScore? "zü*" "zürich-*-1" = some (.wildcard 2) := by decide
  have hnarrow : matchScore? "zürich-*-*" "zürich-*-1" = some (.wildcard 9) := by decide
  have hfaithful := faithfulScores "zürich-*-1"
  refine ⟨(hfaithful.lt_iff_narrower _ _ 2 9 hwide hnarrow).mp (by decide), ?_, ?_⟩
  · intro other hother
    exact hfaithful.eq_of_score _ _ _ hother hnarrow
  · intro other hother
    exact hfaithful.best_name poolsOfPatterns _ other rfl hother

end OpenstackAdmission
