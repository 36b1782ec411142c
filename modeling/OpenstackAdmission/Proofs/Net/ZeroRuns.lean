import OpenstackAdmission.Net.Address

/-!
# Runs of zeros

The text of an address leaves out one run of zeros. Which one is found by going through the groups from behind: a run
that starts at the group at hand replaces the longest one behind it unless it is shorter.

> `longestZeroRun`: what is found is a run of zeros, no run is longer, and of those that are as long it is the first.

What is left out can be put back, because it is nothing but zeros (`append_of_zeroRun`).
-/

namespace OpenstackAdmission.Net.Address

/-- So many groups from a place on are there, and they are zero. -/
def ZeroRun (groups : List Nat) (start length : Nat) : Prop := ∀ i < length, groups[start + i]? = some 0

/-- A run of zeros than which none is longer, and none before it as long. -/
structure LongestZeroRun (groups : List Nat) (start length : Nat) : Prop where
  zeros : ZeroRun groups start length
  longest : ∀ s l, ZeroRun groups s l → l ≤ length
  first : ∀ s, ZeroRun groups s length → start ≤ s

section ZeroRun

variable {g : Nat} {groups rest : List Nat} {start length : Nat}

theorem ZeroRun.mono {l : Nat} (h : ZeroRun groups start length) (hle : l ≤ length) : ZeroRun groups start l := by
  intro i hi
  exact h i (Nat.lt_of_lt_of_le hi hle)

/-- There is one such run only. -/
theorem LongestZeroRun.unique {s l : Nat} (h : LongestZeroRun groups start length)
    (hother : LongestZeroRun groups s l) : start = s ∧ length = l := by
  obtain rfl : length = l :=
    Nat.le_antisymm (hother.longest start length h.zeros) (h.longest s l hother.zeros)
  exact ⟨Nat.le_antisymm (h.first s hother.zeros) (hother.first start h.zeros), rfl⟩

theorem not_zeroRun_nil_succ : ¬ ZeroRun [] start (length + 1) := by
  intro h
  cases h 0 (Nat.succ_pos length)

theorem zeroRun_cons_succ_iff : ZeroRun (g :: rest) (start + 1) length ↔ ZeroRun rest start length := by
  unfold ZeroRun
  simp only [Nat.add_right_comm start 1, List.getElem?_cons_succ]

/-- A run at the front goes on behind the first group. -/
theorem zeroRun_cons_zero_iff : ZeroRun (g :: rest) 0 (length + 1) ↔ g = 0 ∧ ZeroRun rest 0 length := by
  unfold ZeroRun
  simp only [Nat.zero_add]
  constructor
  · intro h
    refine ⟨Option.some.inj (h 0 (Nat.succ_pos length)), ?_⟩
    intro i hi
    exact h (i + 1) (Nat.succ_lt_succ hi)
  · rintro ⟨rfl, h⟩ i hi
    cases i with
    | zero => rfl
    | succ i => exact h i (Nat.lt_of_succ_lt_succ hi)

/-- The runs at the front are those within the leading zeros. -/
theorem zeroRun_zero_iff : ZeroRun groups 0 length ↔ length ≤ leadingZeros groups := by
  induction groups generalizing length with
  | nil =>
    cases length with
    | zero => exact iff_of_true nofun (Nat.zero_le _)
    | succ length => exact iff_of_false not_zeroRun_nil_succ (Nat.not_succ_le_zero _)
  | cons g rest ih =>
    cases length with
    | zero => exact iff_of_true nofun (Nat.zero_le _)
    | succ length =>
      rw [zeroRun_cons_zero_iff, ih]
      unfold leadingZeros
      by_cases hg : g = 0
      · simp [hg]
      · simp [hg]

/-- **What is left out of a text is the first of the longest runs of zeros.** -/
theorem longestZeroRun (h : longestZeros groups = (start, length)) : LongestZeroRun groups start length := by
  induction groups generalizing start length with
  | nil =>
    cases h
    constructor
    case zeros => exact nofun
    case longest =>
      intro s l hrun
      cases l with
      | zero => exact Nat.le_refl 0
      | succ l => exact absurd hrun not_zeroRun_nil_succ
    case first => exact fun s _ => Nat.zero_le s
  | cons g rest ih =>
    rcases hrest : longestZeros rest with ⟨behind, most⟩
    have hbehind : LongestZeroRun rest behind most := ih hrest
    unfold longestZeros at h
    simp only [hrest] at h
    by_cases hmost : most ≤ leadingZeros (g :: rest)
    · -- the run at the front replaces the one behind it
      rw [if_pos hmost] at h
      obtain ⟨rfl, rfl⟩ := Prod.mk.inj h
      constructor
      case zeros => exact zeroRun_zero_iff.mpr (Nat.le_refl _)
      case longest =>
        intro s l hrun
        cases s with
        | zero => exact zeroRun_zero_iff.mp hrun
        | succ s => exact Nat.le_trans (hbehind.longest s l (zeroRun_cons_succ_iff.mp hrun)) hmost
      case first => exact fun s _ => Nat.zero_le s
    -- the run at the front is shorter, so the one behind it stays, one place further back
    · rw [if_neg hmost] at h
      obtain ⟨rfl, rfl⟩ := Prod.mk.inj h
      constructor
      case zeros => exact zeroRun_cons_succ_iff.mpr hbehind.zeros
      case longest =>
        intro s l hrun
        cases s with
        | zero => exact Nat.le_trans (zeroRun_zero_iff.mp hrun) (Nat.le_of_not_le hmost)
        | succ s => exact hbehind.longest s l (zeroRun_cons_succ_iff.mp hrun)
      case first =>
        intro s hrun
        cases s with
        | zero => exact absurd (zeroRun_zero_iff.mp hrun) hmost
        | succ s => exact Nat.succ_le_succ (hbehind.first s (zeroRun_cons_succ_iff.mp hrun))

/-- The groups around a run, with the zeros of the run put back. -/
theorem append_of_zeroRun (h : ZeroRun groups start length) :
    groups.take start ++ List.replicate length 0 ++ groups.drop (start + length) = groups := by
  have hzeros : (groups.drop start).take length = List.replicate length 0 := by
    apply List.ext_getElem?
    intro i
    by_cases hi : i < length
    · rw [List.getElem?_take_of_lt hi, List.getElem?_drop, h i hi, List.getElem?_replicate, if_pos hi]
    · rw [List.getElem?_take, if_neg hi, List.getElem?_replicate, if_neg hi]
  rw [← hzeros, ← List.drop_drop, List.append_assoc, List.take_append_drop, List.take_append_drop]

end ZeroRun

end OpenstackAdmission.Net.Address
