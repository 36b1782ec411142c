import OpenstackAdmission.Report.FieldError

/-!
# Where errors stand

A check is given the path of what it checks, and has nothing to say about any other part of the document:
`StandUnder root errors`. As with `Census`, a compound check has this from its parts, and a part whose path only
goes deeper needs no more than the path of the whole.

> `child_under_child_iff`: the fields of one object are apart. So a check of one of them reports no error of another.

A report on a document is a sequence of sections, one for each part that is checked on its own: `InSections`. Who looks
for errors in one part need not look into the sections of others (`InSections.filter_eq`). The check of a list is such
a report, with a section for each item (`filter_checkEachAfter`).
-/

namespace OpenstackAdmission

namespace FieldPath

/-- The path leads to what the other one leads to, or deeper into it. -/
def Under (path root : FieldPath) : Prop := root.segments <+: path.segments

variable {path root : FieldPath}

instance : Decidable (path.Under root) :=
  inferInstanceAs (Decidable (root.segments <+: path.segments))

theorem under_refl (path : FieldPath) : path.Under path := List.prefix_rfl

theorem Under.child (h : path.Under root) (name : String) : (path.child name).Under root :=
  h.trans (List.prefix_append ..)

theorem Under.index (h : path.Under root) (position : Nat) : (path.index position).Under root :=
  h.trans (List.prefix_append ..)

theorem Under.key (h : path.Under root) (name : String) : (path.key name).Under root :=
  h.trans (List.prefix_append ..)

/-- A field of an object stands under no other field of it. -/
theorem child_under_child_iff {name other : String} :
    (path.child name).Under (path.child other) ↔ name = other := by
  unfold Under FieldPath.child
  rw [List.prefix_append_right_inj]
  constructor
  · intro h
    have heq := h.eq_of_length rfl
    simp only [List.cons.injEq, Segment.field.injEq, and_true] at heq
    exact heq.symm
  · intro h
    subst h
    exact List.prefix_rfl

/-- What holds an item is not in it. -/
theorem not_under_index (path : FieldPath) (position : Nat) : ¬ path.Under (path.index position) := by
  intro h
  have hlength := h.length_le
  unfold FieldPath.index at hlength
  rw [List.length_append] at hlength
  exact Nat.not_succ_le_self _ hlength

/-- The path that goes on with some steps. -/
def follow (path : FieldPath) (steps : List Segment) : FieldPath := ⟨path.segments ++ steps⟩

theorem follow_nil : path.follow [] = path := by
  simp [follow]

theorem follow_field {name : String} {steps : List Segment} :
    path.follow (.field name :: steps) = (path.child name).follow steps := by
  simp [follow, FieldPath.child]

/-- Two ways from one place lead apart, if neither is the beginning of the other. -/
theorem not_under_follow {steps other : List Segment} (hnot : ¬ steps <+: other)
    (hnot' : ¬ other <+: steps) (h : path.Under (root.follow steps)) :
    ¬ path.Under (root.follow other) := by
  intro hother
  rcases List.prefix_or_prefix_of_prefix h hother with hprefix | hprefix
  · exact hnot ((List.prefix_append_right_inj root.segments).mp hprefix)
  · exact hnot' ((List.prefix_append_right_inj root.segments).mp hprefix)

end FieldPath

/-- Every error is one of what the path leads to, or of something in it. -/
def StandUnder (root : FieldPath) (errors : List FieldError) : Prop :=
  ∀ e ∈ errors, e.path.Under root

section StandUnder

variable {α : Type} {root path : FieldPath} {error : FieldError} {errors₁ errors₂ : List FieldError}
  {items : List α}

theorem StandUnder.trans (h : StandUnder path errors₁) (hpath : path.Under root) :
    StandUnder root errors₁ := by
  intro e he
  exact hpath.trans (h e he)

theorem standUnder_nil : StandUnder root [] := by
  intro e he
  cases he

theorem standUnder_singleton (h : error.path.Under root) : StandUnder root [error] := by
  intro e he
  rw [List.mem_singleton] at he
  rw [he]
  exact h

theorem standUnder_append (h₁ : StandUnder root errors₁) (h₂ : StandUnder root errors₂) :
    StandUnder root (errors₁ ++ errors₂) := by
  intro e he
  rcases List.mem_append.mp he with he | he
  · exact h₁ e he
  · exact h₂ e he

theorem standUnder_errorIf {condition : Bool} (h : error.path.Under root) :
    StandUnder root (errorIf condition error) := by
  cases condition with
  | false => exact standUnder_nil
  | true => exact standUnder_singleton h

/-- Errors of items, all of one place. -/
theorem standUnder_map {toError : α → FieldError} (h : ∀ item, (toError item).path.Under root) :
    StandUnder root (items.map toError) := by
  intro e he
  obtain ⟨item, -, rfl⟩ := List.mem_map.mp he
  exact h item

/-- Errors of several items stand in one place if those of each do. -/
theorem standUnder_flatMap {check : α → List FieldError}
    (h : ∀ item ∈ items, StandUnder root (check item)) : StandUnder root (items.flatMap check) := by
  intro e he
  obtain ⟨item, hitem, he⟩ := List.mem_flatMap.mp he
  exact h item hitem e he

/-- A check of each item beside those before it stays where the list is, if it does so at any place. -/
theorem standUnder_checkEachAfter {check : FieldPath → List α → α → List FieldError}
    (hpath : path.Under root)
    (h : ∀ path earlier item, path.Under root → StandUnder root (check path earlier item)) :
    StandUnder root (checkEachAfter path items check) := by
  unfold checkEachAfter
  apply standUnder_flatMap
  intro e _
  exact h _ _ e.1 (hpath.index e.2)

/-- A check of items that each stay below their index stays below the list. -/
theorem standUnder_checkEach {check : FieldPath → α → List FieldError} (hpath : path.Under root)
    (h : ∀ path item, path.Under root → StandUnder root (check path item)) :
    StandUnder root (checkEach path items check) :=
  standUnder_checkEachAfter hpath fun path _ item => h path item

end StandUnder

/-! ## Sections -/

/-- Errors in sections, each on its own part of a document. No two of the parts have anything in common. -/
structure InSections (base : FieldPath) (sections : List (List Segment × List FieldError)) : Prop where
  under : ∀ s ∈ sections, StandUnder (base.follow s.1) s.2
  apart : sections.Pairwise fun a b => ¬ a.1 <+: b.1 ∧ ¬ b.1 <+: a.1

/-- The errors of what a path leads to. -/
def errorsUnder (root : FieldPath) (errors : List FieldError) : List FieldError :=
  errors.filter fun e => e.path.Under root

section Selections

variable {α : Type} {root base path : FieldPath} {errors : List FieldError} {items : List α}
  {selects : FieldError → Bool}

/-- Who looks elsewhere finds nothing. -/
theorem filter_eq_nil_of_standUnder (h : StandUnder root errors)
    (hselects : ∀ e, selects e = true → ¬ e.path.Under root) : errors.filter selects = [] := by
  rw [List.filter_eq_nil_iff]
  intro e he hselected
  exact hselects e hselected (h e he)

/-- Who looks at one part finds what its section holds. The induction is on the sections: those before and those
behind the one that is looked at are left out as they come. -/
theorem InSections.filter_eq {sections : List (List Segment × List FieldError)}
    (h : InSections base sections) {s : List Segment × List FieldError} (hs : s ∈ sections)
    (hselects : ∀ e, selects e = true → e.path.Under (base.follow s.1)) :
    (sections.flatMap Prod.snd).filter selects = s.2.filter selects := by
  obtain ⟨hunder, hapart⟩ := h
  induction sections with
  | nil => cases hs
  | cons t rest ih =>
    obtain ⟨ht, hrest⟩ := List.pairwise_cons.mp hapart
    have hunderRest : ∀ u ∈ rest, StandUnder (base.follow u.1) u.2 :=
      fun u hu => hunder u (List.mem_cons_of_mem _ hu)
    rw [List.flatMap_cons, List.filter_append]
    rcases List.mem_cons.mp hs with rfl | hs
    · have hbehind : (rest.flatMap Prod.snd).filter selects = [] := by
        rw [List.filter_flatMap, List.flatMap_eq_nil_iff]
        intro u hu
        refine filter_eq_nil_of_standUnder (hunderRest u hu) fun e he => ?_
        exact FieldPath.not_under_follow (ht u hu).1 (ht u hu).2 (hselects e he)
      rw [hbehind, List.append_nil]
    · have hbefore : t.2.filter selects = [] := by
        refine filter_eq_nil_of_standUnder (hunder t (List.mem_cons_self ..)) fun e he => ?_
        exact FieldPath.not_under_follow (ht s hs).2 (ht s hs).1 (hselects e he)
      rw [hbefore, List.nil_append]
      exact ih hs hunderRest hrest

variable {check : FieldPath → List α → α → List FieldError}

/-- The sections of a list of items. -/
def itemSections (path : FieldPath) (items : List α)
    (check : FieldPath → List α → α → List FieldError) : List (List Segment × List FieldError) :=
  items.zipIdx.map fun e => ([.index e.2], check (path.index e.2) (items.take e.2) e.1)

/-- Items are sections of their list: the errors of an item stand below its index, and indices are apart. -/
theorem inSections_items (hcheck : ∀ path earlier item, StandUnder path (check path earlier item)) :
    InSections path (itemSections path items check) := by
  constructor
  · intro s hs
    obtain ⟨e, -, rfl⟩ := List.mem_map.mp hs
    exact hcheck _ _ _
  · have hdistinct : (items.zipIdx.map Prod.snd).Pairwise (· ≠ ·) := by
      rw [List.zipIdx_map_snd]
      exact List.nodup_range'
    unfold itemSections
    rw [List.pairwise_map]
    refine (List.pairwise_map.mp hdistinct).imp ?_
    intro a b hne
    simp [hne, hne.symm]

/-- Who looks at one item finds what the check of this item has found. -/
theorem filter_checkEachAfter (hcheck : ∀ path earlier item, StandUnder path (check path earlier item))
    {i : Nat} {item : α} (hi : items[i]? = some item)
    (hselects : ∀ e, selects e = true → e.path.Under (path.index i)) :
    (checkEachAfter path items check).filter selects =
      (check (path.index i) (items.take i) item).filter selects := by
  have hsection : ([.index i], check (path.index i) (items.take i) item) ∈
      itemSections path items check :=
    List.mem_map.mpr ⟨(item, i), List.mem_zipIdx_iff_getElem?.mpr hi, rfl⟩
  have hflat : checkEachAfter path items check = (itemSections path items check).flatMap Prod.snd := by
    unfold checkEachAfter itemSections
    rw [List.flatMap_map]
  rw [hflat]
  exact (inSections_items hcheck).filter_eq hsection hselects

/-- The errors of one item are what the check of this item has found. -/
theorem errorsUnder_checkEach {check : FieldPath → α → List FieldError}
    (hcheck : ∀ path item, StandUnder path (check path item)) {i : Nat} {item : α}
    (hi : items[i]? = some item) :
    errorsUnder (path.index i) (checkEach path items check) = check (path.index i) item := by
  have hitem := filter_checkEachAfter (fun path _ item => hcheck path item) hi
    (fun e (he : decide (e.path.Under (path.index i)) = true) => of_decide_eq_true he)
  refine hitem.trans (List.filter_eq_self.mpr fun e he => ?_)
  exact decide_eq_true (hcheck _ _ e he)

end Selections

end OpenstackAdmission
