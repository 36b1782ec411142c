/-!
# Matching names

A rule matches its own name, and if it ends in `*`, every name that begins with what stands before. Exact
matches count more than others, and those more the longer the common beginning is.

The operation `match_score` and the order of `MatchScore` (specification, the scores of section 4.2).
-/

namespace OpenstackAdmission

/-- How well a rule matches a name. -/
inductive MatchScore where
  /-- The rule gives the first characters, so many of them. -/
  | wildcard (length : Nat)
  | exact
  deriving DecidableEq, Repr

namespace MatchScore

/-- The first match is worse than the second. -/
def lt : MatchScore → MatchScore → Bool
  | .wildcard a, .wildcard b => a < b
  | .wildcard _, .exact => true
  | .exact, _ => false

theorem lt_irrefl (a : MatchScore) : a.lt a = false := by
  cases a <;> simp [lt]

/-- What is not worse than one score is not worse than any score below it. -/
theorem not_lt_trans {a b c : MatchScore} (hab : a.lt b = false) (hbc : b.lt c = false) :
    a.lt c = false := by
  cases a <;> cases b <;> cases c <;> simp [lt] at hab hbc ⊢
  omega

/-- The better of two scores is not worse. -/
theorem not_lt_of_lt {a b : MatchScore} (h : a.lt b = true) : b.lt a = false := by
  cases a <;> cases b <;> simp [lt] at h ⊢
  omega

/-- Scores are ordered linearly. -/
theorem eq_of_not_lt {a b : MatchScore} (hab : a.lt b = false) (hba : b.lt a = false) : a = b := by
  cases a <;> cases b <;> simp [lt] at hab hba ⊢
  omega

end MatchScore

/-- What stands before a star at the end of a pattern. -/
def stem? (pattern : String) : Option (List Char) :=
  if pattern.toList.getLast? = some '*' then some pattern.toList.dropLast else none

/-- How the pattern of a rule matches a name, if it does. -/
def matchScore? (pattern name : String) : Option MatchScore :=
  if pattern = name then some .exact
  else
    match stem? pattern with
    | none => none
    | some stem => if stem.isPrefixOf name.toList then some (.wildcard stem.length) else none

@[simp] theorem matchScore?_self (name : String) : matchScore? name name = some .exact :=
  if_pos rfl

variable {pattern other name : String}

theorem stem?_eq_some_iff {stem : List Char} :
    stem? pattern = some stem ↔ pattern.toList = stem ++ ['*'] := by
  unfold stem?
  constructor
  · intro h
    split at h
    · next hlast =>
      obtain ⟨front, hfront⟩ := List.getLast?_eq_some_iff.mp hlast
      rw [hfront, List.dropLast_concat] at h
      rw [hfront, Option.some.inj h]
    · cases h
  · intro h
    rw [h, List.getLast?_append, List.dropLast_concat]
    rfl

theorem eq_of_matchScore?_eq_exact (h : matchScore? pattern name = some .exact) : pattern = name := by
  unfold matchScore? at h
  split at h
  · assumption
  · split at h
    · cases h
    · split at h <;> cases h

/-- A wildcard is a beginning of the name with a star behind. -/
theorem exists_stem_of_matchScore? {length : Nat}
    (h : matchScore? pattern name = some (.wildcard length)) :
    ∃ stem, pattern.toList = stem ++ ['*'] ∧ stem <+: name.toList ∧ stem.length = length := by
  unfold matchScore? at h
  split at h
  · cases h
  · split at h
    · cases h
    · next stem hstem =>
      split at h
      · next hbegin =>
        have hlength : stem.length = length := MatchScore.wildcard.inj (Option.some.inj h)
        exact ⟨stem, stem?_eq_some_iff.mp hstem, List.isPrefixOf_iff_prefix.mp hbegin, hlength⟩
      · cases h

theorem stem_of_matchScore?_eq_wildcard {length : Nat}
    (h : matchScore? pattern name = some (.wildcard length)) :
    pattern.toList = name.toList.take length ++ ['*'] := by
  obtain ⟨stem, hpattern, hbegin, rfl⟩ := exists_stem_of_matchScore? h
  rw [hpattern, ← List.prefix_iff_eq_take.mp hbegin]

/-- Patterns that match a name equally well are the same: a score says which characters of the name the pattern
gives. -/
theorem eq_of_matchScore? {score : MatchScore} (h : matchScore? pattern name = some score)
    (hother : matchScore? other name = some score) : pattern = other := by
  cases score with
  | exact => rw [eq_of_matchScore?_eq_exact h, eq_of_matchScore?_eq_exact hother]
  | wildcard length =>
    apply String.toList_injective
    rw [stem_of_matchScore?_eq_wildcard h, stem_of_matchScore?_eq_wildcard hother]

end OpenstackAdmission
