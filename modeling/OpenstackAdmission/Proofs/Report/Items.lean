import OpenstackAdmission.Proofs.Report.Places

/-!
# Faults of single items

`Census` is about all that a check reports. Here one error is followed through a report: `ReportsOnce errors error
fault` says that it is there exactly if a fault occurs, and that there is no second one of its kind at its place.

> `reports_items`: what the check of a list says about an item is what the check of this item says about it.

An item may be at fault because of those before it. `HasEarlier` is about them, and where no item has an earlier one
that it may not have, all pairs of items are apart (`pairwise_of_checkEachAfter`).
-/

namespace OpenstackAdmission

/-- The same kind of problem at the same place. -/
def FieldError.isLike (e other : FieldError) : Bool :=
  e.path = other.path && e.problem.title = other.problem.title

/-- Of all errors of its kind at its place, the report has this error if the fault occurs, and none otherwise. -/
structure ReportsOnce (errors : List FieldError) (error : FieldError) (fault : Prop) : Prop where
  once : fault → errors.filter (·.isLike error) = [error]
  never : ¬ fault → errors.filter (·.isLike error) = []

/-- Something holds of an item before the index. -/
def HasEarlier {α : Type} (items : List α) (i : Nat) (holds : α → Prop) : Prop :=
  ∃ j, j < i ∧ ∃ earlier, items[j]? = some earlier ∧ holds earlier

variable {α : Type} {items : List α} {path : FieldPath} {error : FieldError} {fault : Prop}
  {errors errors₁ errors₂ : List FieldError} {check : FieldPath → List α → α → List FieldError}

/-- Looking through the items before an index is asking for an earlier one. -/
theorem any_take_iff {i : Nat} {test : α → Bool} {holds : α → Prop}
    (htest : ∀ a, test a = true ↔ holds a) :
    (items.take i).any test = true ↔ HasEarlier items i holds := by
  unfold HasEarlier
  rw [List.any_eq_true]
  simp only [mem_take_iff, htest]
  constructor
  · rintro ⟨earlier, ⟨j, hj, hearlier⟩, h⟩
    exact ⟨j, hj, earlier, hearlier, h⟩
  · rintro ⟨j, hj, earlier, hearlier, h⟩
    exact ⟨earlier, ⟨j, hj, hearlier⟩, h⟩

instance {i : Nat} {holds : α → Prop} [DecidablePred holds] : Decidable (HasEarlier items i holds) :=
  decidable_of_iff ((items.take i).any fun a => decide (holds a)) (any_take_iff fun _ => decide_eq_true_iff)

/-! ## Errors of one kind -/

/-- Errors that are alike stand at the same place. -/
theorem FieldError.path_of_isLike {e : FieldError} (h : e.isLike error = true) : e.path = error.path :=
  of_decide_eq_true (Bool.and_eq_true_iff.mp h).1

@[simp] theorem FieldError.isLike_self (e : FieldError) : e.isLike e = true := by
  simp [FieldError.isLike]

@[simp] theorem FieldError.required_isLike_duplicate {place : FieldPath} {detail : String} {value : Json} :
    (FieldError.required path detail).isLike (.duplicate place value) = false := by
  simp [FieldError.isLike, FieldError.required, FieldError.duplicate, Problem.title]

theorem filter_errorIf {condition : Bool} {selects : FieldError → Bool} :
    (errorIf condition error).filter selects = errorIf (condition && selects error) error := by
  cases condition <;> cases h : selects error <;> simp [errorIf, h]

theorem filter_isLike_errorIf {condition : Bool} {other : FieldError} (h : other.isLike error = false) :
    (errorIf condition other).filter (·.isLike error) = [] := by
  rw [filter_errorIf, h, Bool.and_false]
  rfl

/-- The errors of one field of an object are none of another field. -/
theorem filter_isLike_of_field {name field : String} (h : StandUnder (path.child field) errors)
    (herror : error.path = path.child name) (hne : name ≠ field) :
    errors.filter (·.isLike error) = [] := by
  refine filter_eq_nil_of_standUnder h fun e he => ?_
  rw [FieldError.path_of_isLike he, herror, FieldPath.child_under_child_iff]
  exact hne

/-! ## Reports of one error -/

namespace ReportsOnce

theorem of_filter_eq (h : ReportsOnce errors₁ error fault)
    (heq : errors₂.filter (·.isLike error) = errors₁.filter (·.isLike error)) :
    ReportsOnce errors₂ error fault :=
  ⟨fun hfault => heq.trans (h.once hfault), fun hfault => heq.trans (h.never hfault)⟩

/-- Other errors may follow, -/
theorem followed (h : ReportsOnce errors₁ error fault) (hother : errors₂.filter (·.isLike error) = []) :
    ReportsOnce (errors₁ ++ errors₂) error fault := by
  refine h.of_filter_eq ?_
  rw [List.filter_append, hother, List.append_nil]

/-- and other errors may come before. -/
theorem preceded (h : ReportsOnce errors₂ error fault) (hother : errors₁.filter (·.isLike error) = []) :
    ReportsOnce (errors₁ ++ errors₂) error fault := by
  refine h.of_filter_eq ?_
  rw [List.filter_append, hother, List.nil_append]

end ReportsOnce

/-- A check with one condition reports it once. -/
theorem reportsOnce_errorIf {condition : Bool} (hiff : condition = true ↔ fault) :
    ReportsOnce (errorIf condition error) error fault := by
  constructor
  · intro hfault
    rw [filter_errorIf, hiff.mpr hfault, FieldError.isLike_self]
    rfl
  · intro hfault
    rw [filter_errorIf, Bool.eq_false_iff.mpr fun h => hfault (hiff.mp h)]
    rfl

theorem standUnder_text {root : FieldPath} {text detail : String} {repeated : Bool}
    (h : path.Under root) :
    StandUnder root
      (if text = "" then [.required path detail]
        else errorIf repeated (.duplicate path (.str text))) := by
  split
  · exact standUnder_singleton h
  · exact standUnder_errorIf h

/-- Where a text is missing, this is all that is reported of it, and not that there is another one. -/
theorem reportsOnce_text {text detail : String} {repeated : Bool} (hiff : repeated = true ↔ fault) :
    ReportsOnce
      (if text = "" then [.required path detail] else errorIf repeated (.duplicate path (.str text)))
      (.duplicate path (.str text)) (text ≠ "" ∧ fault) := by
  by_cases hempty : text = ""
  · rw [if_pos hempty]
    refine ⟨fun hfault => absurd hempty hfault.1, fun _ => ?_⟩
    simp
  · rw [if_neg hempty]
    exact reportsOnce_errorIf (hiff.trans (and_iff_right hempty).symm)

/-- A text that passes is no repetition. The check of an empty one stops before the comparison, but it does
not pass. -/
theorem repeated_of_text {text detail : String} {repeated : Bool}
    (h : (if text = "" then [.required path detail]
      else errorIf repeated (.duplicate path (.str text))) = []) : repeated = false := by
  split at h
  · cases h
  · exact errorIf_eq_nil_iff.mp h

/-! ## Reports on lists -/

/-- A check that stays with its item does so in a list, and what it reports of an item is reported of the list. -/
theorem reports_items (hcheck : ∀ path earlier item, StandUnder path (check path earlier item)) :
    StandUnder path (checkEachAfter path items check) ∧
      ∀ i item, items[i]? = some item → ∀ error fault, error.path.Under (path.index i) →
        ReportsOnce (check (path.index i) (items.take i) item) error fault →
          ReportsOnce (checkEachAfter path items check) error fault := by
  constructor
  · refine standUnder_checkEachAfter (FieldPath.under_refl path) fun path earlier item hpath => ?_
    exact (hcheck path earlier item).trans hpath
  · intro i item hi error fault hplace hitem
    refine hitem.of_filter_eq (filter_checkEachAfter hcheck hi fun e he => ?_)
    rw [FieldError.path_of_isLike he]
    exact hplace

/-- What is reported of the list itself is of no item. -/
theorem reports_items_of_list {detail : String} {condition : Bool}
    (hcheck : ∀ path earlier item, StandUnder path (check path earlier item)) :
    let errors := errorIf condition (.required path detail) ++ checkEachAfter path items check
    StandUnder path errors ∧
      ∀ i item, items[i]? = some item → ∀ error fault, error.path.Under (path.index i) →
        ReportsOnce (check (path.index i) (items.take i) item) error fault →
          ReportsOnce errors error fault := by
  obtain ⟨hunder, hreports⟩ := reports_items hcheck
  constructor
  · exact standUnder_append (standUnder_errorIf (FieldPath.under_refl path)) hunder
  · intro i item hi error fault hplace hitem
    refine (hreports i item hi error fault hplace hitem).preceded (filter_isLike_errorIf ?_)
    rw [Bool.eq_false_iff]
    intro hlike
    rw [← FieldError.path_of_isLike hlike] at hplace
    exact FieldPath.not_under_index path i hplace

/-- Where nothing is found, all items are apart from those before them. -/
theorem pairwise_of_checkEachAfter {apart : α → α → Prop} (h : checkEachAfter path items check = [])
    (hcheck : ∀ path earlier item, check path earlier item = [] → ∀ e ∈ earlier, apart e item) :
    items.Pairwise apart := by
  rw [← forall_take_iff_pairwise]
  intro i item hi
  refine hcheck (path.index i) _ item ?_
  unfold checkEachAfter at h
  exact List.flatMap_eq_nil_iff.mp h (item, i) (List.mem_zipIdx_iff_getElem?.mpr hi)

end OpenstackAdmission
