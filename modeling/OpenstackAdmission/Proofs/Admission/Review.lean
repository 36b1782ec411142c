import OpenstackAdmission.Admission.Review

/-!
# What a review decides

A review compares kinds, lets go what is being deleted, and checks the rest. `review_eq_ok_iff` is the outcome as
one condition, and `check_of_review_eq_invalid` the way back from the errors of a refusal to the check that found
them.

Of all checks only that of shoots looks at what is replaced: `check_of_shoot?_eq_none`.
-/

namespace OpenstackAdmission.Resource

variable {r : Resource} {old : Option Resource} {lookup : Lookup}

/-- A resource may replace itself. -/
theorem mismatch?_self (r : Resource) : r.mismatch? (some r) = none := by
  unfold mismatch?
  rw [Option.map_some, Option.filter_some, decide_eq_false (not_not_intro rfl)]
  rfl

/-- **What it takes to admit a resource.** -/
theorem review_eq_ok_iff :
    r.review old lookup = .ok () ↔
      r.mismatch? old = none ∧
        (r.metadata.isDeleting = true ∨ r.check old lookup = .ok []) := by
  unfold review
  cases hmismatch : r.mismatch? old with
  | some oldKind => simp only [reduceCtorEq, false_and]
  | none =>
    by_cases hdeleting : r.metadata.isDeleting = true
    · simp only [hdeleting, if_true, true_or, and_self]
    · simp only [hdeleting, true_and]
      cases r.check old lookup with
      | error e => simp
      | ok errors => cases errors <;> simp

/-- What stays is admitted for nothing but its check. -/
theorem check_eq_ok_nil_of_review (h : r.review old lookup = .ok ())
    (hstays : r.metadata.isDeleting = false) : r.check old lookup = .ok [] := by
  rcases (review_eq_ok_iff.mp h).2 with hdeleting | hcheck
  · rw [hstays] at hdeleting
    cases hdeleting
  · exact hcheck

/-- What stays is refused with what its check finds. -/
theorem review_eq_invalid_of_check (hmismatch : r.mismatch? old = none)
    (hstays : r.metadata.isDeleting = false) {errors : List FieldError}
    (hcheck : r.check old lookup = .ok errors) (herrors : errors ≠ []) :
    r.review old lookup = .error (.invalid r.kind r.objectName errors) := by
  unfold review
  cases errors with
  | nil => exact absurd rfl herrors
  | cons first rest => simp only [hmismatch, hstays, hcheck, Bool.false_eq_true, if_false]

/-- The errors of a refused resource are those that its check has found. -/
theorem check_of_review_eq_invalid {kind : ResourceKind} {object : String}
    {errors : List FieldError}
    (h : r.review old lookup = .error (.invalid kind object errors)) :
    r.check old lookup = .ok errors ∨
      r.check old lookup = .error (.invalid kind object errors) := by
  unfold review at h
  cases hmismatch : r.mismatch? old with
  | some oldKind =>
    rw [hmismatch] at h
    cases h
  | none =>
    rw [hmismatch] at h
    dsimp only at h
    by_cases hdeleting : r.metadata.isDeleting = true
    · rw [if_pos hdeleting] at h
      cases h
    · rw [if_neg hdeleting] at h
      -- a check may fail with errors of its own, which are passed on as they are
      cases hcheck : r.check old lookup with
      | error e =>
        rw [hcheck] at h
        exact .inr (congrArg Except.error (Except.error.inj h))
      | ok found =>
        rw [hcheck] at h
        cases found with
        | nil => cases h
        | cons first rest =>
          cases h
          exact .inl rfl

/-- Only a shoot is read as a shoot. -/
theorem eq_shoot_of_shoot? {s : Shoot} (h : r.shoot? = some s) : r = .shoot s := by
  cases r with
  | shoot own => exact congrArg Resource.shoot (Option.some.inj h)
  | _ => cases h

/-- For anything but a shoot it makes no difference what is replaced. -/
theorem check_of_shoot?_eq_none (h : r.shoot? = none) (old : Option Resource) :
    r.check old lookup = r.check none lookup := by
  cases r with
  | shoot s => cases h
  | _ => rfl

end OpenstackAdmission.Resource
