import Mathlib.Data.List.Forall2
import OpenstackAdmission.Report.FieldError

/-!
# Reports without gaps and without repetitions

A check is exact if each fault that occurs gives one error and nothing else does. `Census occurs reports errors`
says so: the faults that occur can be listed, each once, so that the errors are the reports of the faults of
the list, one after the other.

The census of a compound check comes from those of its parts: `census_append` for two checks one after the
other, `census_checkEach` for the check of every item of a list, where a fault belongs to one index.
-/

namespace OpenstackAdmission

variable {φ α : Type} {occurs occurs₁ occurs₂ : φ → Prop} {reports : φ → FieldError → Prop}
  {errors errors₁ errors₂ : List FieldError}

/-- The errors report each fault that occurs once, and nothing else. -/
def Census (occurs : φ → Prop) (reports : φ → FieldError → Prop) (errors : List FieldError) :
    Prop :=
  ∃ faults : List φ, faults.Nodup ∧ (∀ fault, fault ∈ faults ↔ occurs fault) ∧
    List.Forall₂ reports faults errors

/-- Nothing is reported exactly where no fault occurs. -/
theorem Census.eq_nil_iff (h : Census occurs reports errors) :
    errors = [] ↔ ∀ fault, ¬ occurs fault := by
  obtain ⟨faults, -, hmem, hreports⟩ := h
  constructor
  · rintro rfl fault hfault
    cases hreports
    exact absurd ((hmem fault).mpr hfault) List.not_mem_nil
  · intro hnone
    cases hreports with
    | nil => rfl
    | cons => exact absurd ((hmem _).mp (List.mem_cons_self ..)) (hnone _)

theorem Census.congr (h : Census occurs₁ reports errors)
    (hiff : ∀ fault, occurs₁ fault ↔ occurs₂ fault) : Census occurs₂ reports errors := by
  obtain ⟨faults, hnodup, hmem, hreports⟩ := h
  exact ⟨faults, hnodup, fun fault => (hmem fault).trans (hiff fault), hreports⟩

theorem census_nil (h : ∀ fault, ¬ occurs fault) : Census occurs reports [] :=
  ⟨[], List.nodup_nil, fun fault => iff_of_false List.not_mem_nil (h fault), .nil⟩

theorem census_singleton (fault : φ) {error : FieldError}
    (hiff : ∀ other, occurs other ↔ other = fault) (h : reports fault error) :
    Census occurs reports [error] :=
  ⟨[fault], List.pairwise_singleton .., fun other => List.mem_singleton.trans (hiff other).symm,
    .cons h .nil⟩

/-- An error under a condition reports one fault, which occurs under this condition. -/
theorem census_errorIf {condition : Bool} (fault : φ) {error : FieldError}
    (hiff : ∀ other, occurs other ↔ condition = true ∧ other = fault)
    (h : reports fault error) : Census occurs reports (errorIf condition error) := by
  cases condition with
  | false => exact census_nil fun other hother => Bool.false_ne_true ((hiff other).mp hother).1
  | true => exact census_singleton fault (fun other => (hiff other).trans (and_iff_right rfl)) h

/-- Two checks one after the other report what either reports, if they have no fault in common. -/
theorem census_append (h₁ : Census occurs₁ reports errors₁) (h₂ : Census occurs₂ reports errors₂)
    (hapart : ∀ fault, occurs₁ fault → ¬ occurs₂ fault) :
    Census (fun fault => occurs₁ fault ∨ occurs₂ fault) reports (errors₁ ++ errors₂) := by
  obtain ⟨faults₁, hnodup₁, hmem₁, hreports₁⟩ := h₁
  obtain ⟨faults₂, hnodup₂, hmem₂, hreports₂⟩ := h₂
  refine ⟨faults₁ ++ faults₂, List.nodup_append.mpr ⟨hnodup₁, hnodup₂, ?_⟩, ?_,
    List.rel_append hreports₁ hreports₂⟩
  · rintro a ha b hb rfl
    exact hapart a ((hmem₁ a).mp ha) ((hmem₂ a).mp hb)
  · intro fault
    rw [List.mem_append, hmem₁, hmem₂]

/-! ## Lists of items -/

/-- A property of an item at its index, from the head of the list on. -/
theorem exists_getElem?_cons {item : α} {items : List α} {P : Nat → α → Prop} :
    (∃ i a, (item :: items)[i]? = some a ∧ P i a) ↔
      P 0 item ∨ ∃ i a, items[i]? = some a ∧ P (i + 1) a := by
  constructor
  · rintro ⟨i, a, hi, ha⟩
    cases i with
    | zero =>
      obtain rfl := Option.some.inj (List.getElem?_cons_zero.symm.trans hi)
      exact .inl ha
    | succ i => exact .inr ⟨i, a, by rwa [List.getElem?_cons_succ] at hi, ha⟩
  · rintro (h | ⟨i, a, hi, ha⟩)
    · exact ⟨0, item, List.getElem?_cons_zero, h⟩
    · exact ⟨i + 1, a, by rwa [List.getElem?_cons_succ], ha⟩

/-- The census of items numbered from some index on. The induction is on the list: the head has this index,
and the faults of the rest have later ones. -/
theorem census_flatMap_zipIdx {items : List α} (occursAt : Nat → α → φ → Prop)
    {check : α × Nat → List FieldError} (start : Nat)
    (hitem : ∀ i item, items[i]? = some item →
      Census (occursAt (start + i) item) reports (check (item, start + i)))
    (hapart : ∀ i j a b fault, occursAt i a fault → occursAt j b fault → i = j) :
    Census (fun fault => ∃ i item, items[i]? = some item ∧ occursAt (start + i) item fault) reports
      ((items.zipIdx start).flatMap check) := by
  induction items generalizing start with
  | nil => exact census_nil fun fault ⟨_, _, hnone, _⟩ => by cases hnone
  | cons item items ih =>
    rw [List.zipIdx_cons, List.flatMap_cons]
    have hrest : Census (fun fault => ∃ i a, items[i]? = some a ∧ occursAt (start + (i + 1)) a fault)
        reports ((items.zipIdx (start + 1)).flatMap check) := by
      have hshift : ∀ i, start + 1 + i = start + (i + 1) := fun i => by omega
      refine (ih (start + 1) ?_).congr fun fault => by simp only [hshift]
      intro i a hi
      rw [hshift]
      exact hitem (i + 1) a (by rwa [List.getElem?_cons_succ])
    refine (census_append (hitem 0 item List.getElem?_cons_zero) hrest ?_).congr
      fun fault => (exists_getElem?_cons (P := fun i a => occursAt (start + i) a fault)).symm
    -- a fault of the rest has a later index than the head
    rintro fault hhead ⟨i, a, -, hlater⟩
    have := hapart _ _ _ _ fault hhead hlater
    omega

/-- The check of every item reports the faults of every item, each at its index. -/
theorem census_checkEach {path : FieldPath} {items : List α} (occursAt : Nat → α → φ → Prop)
    {check : FieldPath → α → List FieldError}
    (hitem : ∀ i item, items[i]? = some item →
      Census (occursAt i item) reports (check (path.index i) item))
    (hapart : ∀ i j a b fault, occursAt i a fault → occursAt j b fault → i = j) :
    Census (fun fault => ∃ i item, items[i]? = some item ∧ occursAt i item fault) reports
      (checkEach path items check) := by
  refine (census_flatMap_zipIdx occursAt 0 ?_ hapart).congr fun fault => by simp only [Nat.zero_add]
  intro i item hi
  rw [Nat.zero_add]
  exact hitem i item hi

/-- Errors for some items of a list report these items, each by its index. -/
theorem census_filter_map {items : List α} {selects : α → Bool} {error : α → FieldError}
    (faultAt : Nat → φ) (hinj : ∀ i j, faultAt i = faultAt j → i = j)
    (hreports : ∀ i item, items[i]? = some item → reports (faultAt i) (error item)) :
    Census (fun fault => ∃ i item, items[i]? = some item ∧ selects item = true ∧ fault = faultAt i)
      reports ((items.filter selects).map error) := by
  -- an item that is not selected counts as a check without errors
  have hflat : ∀ start, (items.filter selects).map error =
      (items.zipIdx start).flatMap fun e => errorIf (selects e.1) (error e.1) := by
    clear hreports
    induction items with
    | nil => intro start; rfl
    | cons item items ih =>
      intro start
      rw [List.zipIdx_cons, List.flatMap_cons, ← ih (start + 1), List.filter_cons]
      cases selects item <;> simp [errorIf]
  rw [hflat 0]
  refine (census_flatMap_zipIdx (fun i item fault => selects item = true ∧ fault = faultAt i)
    0 ?_ ?_).congr fun fault => by simp only [Nat.zero_add]
  · intro i item hi
    rw [Nat.zero_add]
    exact census_errorIf (faultAt i) (fun other => Iff.rfl) (hreports i item hi)
  · rintro i j a b fault ⟨-, rfl⟩ ⟨-, hj⟩
    exact hinj i j hj

end OpenstackAdmission
