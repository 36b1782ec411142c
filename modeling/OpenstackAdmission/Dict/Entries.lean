/-!
# Entries under names

Lists of named values, read as finite maps: `find?` gives the first value of a name. `insert` keeps a
list in the strict order of its names; `sort` leaves such a list as it is (`sort_of_sorted`), and of several
values of a name it keeps the last (`find?_sort`).
-/

namespace OpenstackAdmission.Entries

variable {α β : Type}

/-- The first value of a name. -/
def find? (name : String) : List (String × α) → Option α
  | [] => none
  | (k, v) :: rest => if name = k then some v else find? name rest

/-- Puts a value at the place of its name, and over a value of the same name. -/
def insert (name : String) (value : α) : List (String × α) → List (String × α)
  | [] => [(name, value)]
  | (k, v) :: rest =>
    if name < k then (name, value) :: (k, v) :: rest
    else if name = k then (name, value) :: rest
    else (k, v) :: insert name value rest

/-- Names ascend strictly. -/
def Sorted (entries : List (String × α)) : Prop := entries.Pairwise (·.1 < ·.1)

/-- The same entries in the order of their names; of several with one name the last counts. -/
def sort (entries : List (String × α)) : List (String × α) :=
  entries.foldl (fun sorted e => insert e.1 e.2 sorted) []

@[simp] theorem find?_nil (name : String) : find? name ([] : List (String × α)) = none := rfl

@[simp] theorem find?_cons (name k : String) (v : α) (rest : List (String × α)) :
    find? name ((k, v) :: rest) = if name = k then some v else find? name rest := rfl

theorem find?_insert (name other : String) (value : α) (entries : List (String × α)) :
    find? name (insert other value entries)
      = if name = other then some value else find? name entries := by
  induction entries with
  | nil => rfl
  | cons e rest ih =>
    obtain ⟨k, v⟩ := e
    unfold insert
    split
    · rfl
    · split
      · next h => subst h; by_cases hn : name = other <;> simp [hn]
      · next h =>
        by_cases hn : name = k
        · subst hn; simp [Ne.symm h]
        · simp [hn, ih]

theorem find?_of_not_mem {name : String} {entries : List (String × α)}
    (h : name ∉ entries.map Prod.fst) : find? name entries = none := by
  induction entries with
  | nil => rfl
  | cons e rest ih =>
    obtain ⟨k, v⟩ := e
    simp only [List.map_cons, List.mem_cons, not_or] at h
    rw [find?_cons, if_neg h.1, ih h.2]

theorem mem_of_find? {name : String} {value : α} {entries : List (String × α)}
    (h : find? name entries = some value) : (name, value) ∈ entries := by
  induction entries with
  | nil => cases h
  | cons e rest ih =>
    obtain ⟨k, v⟩ := e
    rw [find?_cons] at h
    split at h
    · next hk =>
      subst hk
      obtain rfl := Option.some.inj h
      exact List.mem_cons_self ..
    · exact List.mem_cons_of_mem _ (ih h)

/-- In a list in order, a name has one value. -/
theorem find?_eq_some_iff {name : String} {value : α} {entries : List (String × α)}
    (hsorted : Sorted entries) : find? name entries = some value ↔ (name, value) ∈ entries := by
  refine ⟨mem_of_find?, fun hmem => ?_⟩
  induction entries with
  | nil => cases hmem
  | cons e rest ih =>
    obtain ⟨k, v⟩ := e
    obtain ⟨hk, hrest⟩ := List.pairwise_cons.mp hsorted
    rw [find?_cons]
    rcases List.mem_cons.mp hmem with heq | hlater
    · obtain ⟨rfl, rfl⟩ := Prod.mk.inj heq
      exact if_pos rfl
    · have hlt : k < name := hk (name, value) hlater
      have hne : name ≠ k := fun heq => String.lt_irrefl k (heq ▸ hlt)
      rw [if_neg hne]
      exact ih hrest hlater

theorem find?_append (name : String) (entries others : List (String × α)) :
    find? name (entries ++ others) = (find? name entries).or (find? name others) := by
  induction entries with
  | nil => rfl
  | cons e rest ih =>
    obtain ⟨k, v⟩ := e
    rw [List.cons_append, find?_cons, find?_cons, ih]
    split <;> rfl

/-- The value of the first item with a name. -/
theorem find?_map {ι : Type} (key : ι → String) (value : ι → α) (items : List ι) (name : String) :
    find? name (items.map fun item => (key item, value item))
      = (items.find? fun item => key item = name).map value := by
  induction items with
  | nil => rfl
  | cons item rest ih =>
    rw [List.map_cons, find?_cons, List.find?_cons, ih]
    by_cases h : key item = name
    · simp [h]
    · simp [h, Ne.symm h]

/-- Of several values of a name, sorting keeps the last. The list of what is sorted already takes part in the
induction, as what comes before. -/
theorem find?_sort (name : String) (entries : List (String × α)) :
    find? name (sort entries) = find? name entries.reverse := by
  suffices ∀ acc : List (String × α),
      find? name (entries.foldl (fun sorted e => insert e.1 e.2 sorted) acc)
        = (find? name entries.reverse).or (find? name acc) by
    rw [sort, this [], find?_nil, Option.or_none]
  induction entries with
  | nil => intro acc; rfl
  | cons e rest ih =>
    intro acc
    obtain ⟨k, v⟩ := e
    rw [List.foldl_cons, ih, List.reverse_cons, find?_append, find?_insert, Option.or_assoc,
      find?_cons]
    split <;> rfl

theorem mem_insert {name : String} {value : α} {entries : List (String × α)} {e : String × α}
    (h : e ∈ insert name value entries) : e = (name, value) ∨ e ∈ entries := by
  induction entries with
  | nil => simpa [insert] using h
  | cons f rest ih =>
    obtain ⟨k, v⟩ := f
    unfold insert at h
    split at h
    · simpa using h
    · split at h
      · simp only [List.mem_cons] at h ⊢
        rcases h with h | h
        · exact .inl h
        · exact .inr (.inr h)
      · simp only [List.mem_cons] at h ⊢
        rcases h with h | h
        · exact .inr (.inl h)
        · exact (ih h).imp id .inr

theorem sorted_insert {name : String} {value : α} {entries : List (String × α)}
    (h : Sorted entries) : Sorted (insert name value entries) := by
  unfold Sorted at h ⊢
  induction entries with
  | nil => simp [insert]
  | cons f rest ih =>
    obtain ⟨k, v⟩ := f
    rw [List.pairwise_cons] at h
    unfold insert
    split
    -- the name goes in front of this entry, and so in front of all that follow
    · next hlt =>
      refine List.pairwise_cons.mpr ⟨?_, List.pairwise_cons.mpr h⟩
      intro e he
      rcases List.mem_cons.mp he with rfl | he
      · exact hlt
      · exact String.lt_trans hlt (h.1 e he)
    · next hnlt =>
      split
      · next heq => subst heq; exact List.pairwise_cons.mpr h
      · next hne =>
        refine List.pairwise_cons.mpr ⟨?_, ih h.2⟩
        intro e he
        rcases mem_insert he with rfl | he
        · exact Std.lt_of_le_of_ne (String.not_lt.mp hnlt) (Ne.symm hne)
        · exact h.1 e he

theorem sorted_sort (entries : List (String × α)) : Sorted (sort entries) := by
  suffices ∀ acc : List (String × α), Sorted acc →
      Sorted (entries.foldl (fun sorted e => insert e.1 e.2 sorted) acc) from
    this [] List.Pairwise.nil
  induction entries with
  | nil => intro acc h; exact h
  | cons e rest ih => intro acc h; exact ih _ (sorted_insert h)

/-- Inserting behind the last name appends. -/
theorem insert_of_forall_lt {name : String} {value : α} {entries : List (String × α)}
    (h : ∀ e ∈ entries, e.1 < name) : insert name value entries = entries ++ [(name, value)] := by
  induction entries with
  | nil => rfl
  | cons f rest ih =>
    obtain ⟨k, v⟩ := f
    have hk : k < name := h (k, v) (by simp)
    unfold insert
    rw [if_neg (String.lt_asymm hk), if_neg (by rintro rfl; exact String.lt_irrefl _ hk),
      ih fun e he => h e (by simp [he])]
    rfl

/-- A list in order stays as it is. -/
theorem sort_of_sorted {entries : List (String × α)} (h : Sorted entries) :
    sort entries = entries := by
  suffices ∀ acc : List (String × α), Sorted (acc ++ entries) →
      entries.foldl (fun sorted e => insert e.1 e.2 sorted) acc = acc ++ entries by
    simpa [sort] using this [] h
  clear h
  induction entries with
  | nil => intro acc _; simp
  | cons e rest ih =>
    intro acc h
    have hlt : ∀ f ∈ acc, f.1 < e.1 := by
      intro f hf
      exact (List.pairwise_append.mp h).2.2 f hf e (by simp)
    rw [List.foldl_cons, insert_of_forall_lt hlt, ih]
    · simp
    · simpa using h

end OpenstackAdmission.Entries
