import Mathlib.Data.List.Sort
import Mathlib.Logic.Function.Basic
import OpenstackAdmission.Dict.Basic

/-!
# Dictionaries by their values

A dictionary is known by the values of its names: two that have the same ones are equal (`Dict.eq_of_find?_eq`).
`Dict.mapNamed` gives every name another value and leaves the names as they are.
-/

namespace OpenstackAdmission

variable {α β : Type} {f : String → α → β}

theorem Dict.eq_of_entries_eq {d d' : Dict α} (h : d.entries = d'.entries) : d = d' := by
  obtain ⟨entries, hsorted⟩ := d
  obtain ⟨entries', hsorted'⟩ := d'
  subst h
  rfl

/-- What has the same values is the same. -/
theorem Dict.eq_of_find?_eq {d d' : Dict α} (h : ∀ name, d.find? name = d'.find? name) : d = d' := by
  have hmem (e : String × α) : e ∈ d.entries ↔ e ∈ d'.entries := by
    rw [← Prod.mk.eta (p := e), ← find?_eq_some_iff, ← find?_eq_some_iff, h]
  have : Std.Antisymm fun e e' : String × α => e.1 < e'.1 :=
    ⟨fun _ _ hlt hgt => absurd hgt (String.lt_asymm hlt)⟩
  have : Std.Irrefl fun e e' : String × α => e.1 < e'.1 := ⟨fun e => String.lt_irrefl e.1⟩
  exact eq_of_entries_eq (d.sorted.eq_of_mem_iff d'.sorted hmem)

theorem Entries.find?_mapNamed (f : String → α → β) (name : String) (entries : List (String × α)) :
    find? name (entries.map fun e => (e.1, f e.1 e.2)) = (find? name entries).map (f name) := by
  induction entries with
  | nil => rfl
  | cons e rest ih =>
    obtain ⟨k, v⟩ := e
    rw [List.map_cons, find?_cons, find?_cons, ih]
    by_cases h : name = k
    · subst h
      rw [if_pos rfl, if_pos rfl, Option.map_some]
    · rw [if_neg h, if_neg h]

theorem Entries.insert_mapNamed (f : String → α → β) (name : String) (value : α)
    (entries : List (String × α)) :
    insert name (f name value) (entries.map fun e => (e.1, f e.1 e.2)) =
      (insert name value entries).map fun e => (e.1, f e.1 e.2) := by
  induction entries with
  | nil => rfl
  | cons e rest ih =>
    obtain ⟨k, v⟩ := e
    rw [List.map_cons]
    unfold insert
    by_cases hlt : name < k
    · rw [if_pos hlt, if_pos hlt]
      rfl
    · by_cases heq : name = k
      · rw [if_neg hlt, if_neg hlt, if_pos heq, if_pos heq]
        rfl
      · rw [if_neg hlt, if_neg hlt, if_neg heq, if_neg heq, ih]
        rfl

/-- Changes every value, each by its name. -/
def Dict.mapNamed (f : String → α → β) (d : Dict α) : Dict β :=
  ⟨d.entries.map fun e => (e.1, f e.1 e.2), by
    have h := d.sorted
    unfold Entries.Sorted at h ⊢
    rw [List.pairwise_map]
    exact h⟩

theorem Dict.find?_mapNamed (d : Dict α) (name : String) :
    (d.mapNamed f).find? name = (d.find? name).map (f name) :=
  Entries.find?_mapNamed f name d.entries

/-- Sorting does not look at values. -/
theorem Dict.mapNamed_ofList (f : String → α → β) (entries : List (String × α)) :
    (Dict.ofList entries).mapNamed f = Dict.ofList (entries.map fun e => (e.1, f e.1 e.2)) := by
  suffices ∀ sorted : List (String × α),
      (entries.foldl (fun sorted e => Entries.insert e.1 e.2 sorted) sorted).map
          (fun e => (e.1, f e.1 e.2)) =
        (entries.map fun e => (e.1, f e.1 e.2)).foldl (fun sorted e => Entries.insert e.1 e.2 sorted)
          (sorted.map fun e => (e.1, f e.1 e.2)) from
    Dict.eq_of_entries_eq (this [])
  induction entries with
  | nil => exact fun _ => rfl
  | cons e rest ih =>
    intro sorted
    rw [List.foldl_cons, ih, List.map_cons, List.foldl_cons, Entries.insert_mapNamed]

theorem Dict.mapNamed_leftInverse {f g : String → α → α}
    (h : ∀ name, Function.LeftInverse (g name) (f name)) :
    Function.LeftInverse (Dict.mapNamed g) (Dict.mapNamed f) := by
  intro d
  apply Dict.eq_of_entries_eq
  have hentry : Function.LeftInverse (fun e : String × α => (e.1, g e.1 e.2))
      (fun e => (e.1, f e.1 e.2)) :=
    fun e => Prod.ext rfl (h e.1 e.2)
  exact hentry.list_map d.entries

end OpenstackAdmission
