/-!
# Ascending lists of names

`ascending names` is the set of some names as the strictly ascending list of its members: it has these
members (`mem_ascending`), it ascends (`pairwise_ascending`), and a list that ascends already stays as it
is (`ascending_of_pairwise`).
-/

namespace OpenstackAdmission

/-- Puts a name at its place, unless it is there. -/
def insertName (name : String) : List String → List String
  | [] => [name]
  | n :: rest =>
    if name < n then name :: n :: rest
    else if name = n then n :: rest
    else n :: insertName name rest

/-- The names in ascending order, each once. -/
def ascending (names : List String) : List String := names.foldr insertName []

theorem mem_insertName {name n : String} {names : List String} :
    n ∈ insertName name names ↔ n = name ∨ n ∈ names := by
  induction names with
  | nil => simp [insertName]
  | cons m rest ih =>
    unfold insertName
    split
    · simp
    · split
      · next h => subst h; simp
      · simp [ih, or_left_comm]

/-- A name finds its place between the names below it and those above it. -/
theorem pairwise_insertName {name : String} {names : List String}
    (h : names.Pairwise (· < ·)) : (insertName name names).Pairwise (· < ·) := by
  induction names with
  | nil => exact List.pairwise_singleton ..
  | cons m rest ih =>
    have hm := List.pairwise_cons.mp h
    unfold insertName
    split
    -- the name goes in front, below the head and what is above it
    · next hlt =>
      refine List.pairwise_cons.mpr ⟨?_, h⟩
      intro n hn
      rcases List.mem_cons.mp hn with rfl | hn
      · exact hlt
      · exact String.lt_trans hlt (hm.1 n hn)
    · next hnlt =>
      split
      · exact h
      · next hne =>
        refine List.pairwise_cons.mpr ⟨?_, ih hm.2⟩
        intro n hn
        rcases mem_insertName.mp hn with rfl | hn
        · exact Std.lt_of_le_of_ne (String.not_lt.mp hnlt) (Ne.symm hne)
        · exact hm.1 n hn

theorem mem_ascending {n : String} {names : List String} : n ∈ ascending names ↔ n ∈ names := by
  induction names with
  | nil => simp [ascending]
  | cons m rest ih =>
    have : ascending (m :: rest) = insertName m (ascending rest) := rfl
    rw [this, mem_insertName, ih, List.mem_cons]

theorem pairwise_ascending (names : List String) : (ascending names).Pairwise (· < ·) := by
  induction names with
  | nil => exact List.Pairwise.nil
  | cons m rest ih => exact pairwise_insertName ih

/-- What ascends strictly is its own ascending list. -/
theorem ascending_of_pairwise {names : List String} (h : names.Pairwise (· < ·)) :
    ascending names = names := by
  induction names with
  | nil => rfl
  | cons m rest ih =>
    have hm := List.pairwise_cons.mp h
    show insertName m (ascending rest) = m :: rest
    rw [ih hm.2]
    cases rest with
    | nil => rfl
    | cons n rest => exact if_pos (hm.1 n (List.mem_cons_self ..))

end OpenstackAdmission
