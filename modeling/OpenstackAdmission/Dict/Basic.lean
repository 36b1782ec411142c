import OpenstackAdmission.Dict.Entries

/-!
# Dictionaries

Finite maps from names to values. The entries stand in the strict order of their names, so that equal
maps are equal values.
-/

namespace OpenstackAdmission

/-- A finite map with names as keys. -/
structure Dict (α : Type) where
  entries : List (String × α)
  sorted : Entries.Sorted entries
  deriving DecidableEq

namespace Dict

variable {α β : Type}

def empty : Dict α := ⟨[], List.Pairwise.nil⟩

instance : Inhabited (Dict α) := ⟨empty⟩

/-- The map of a list of entries; of several with one name the last counts. -/
def ofList (entries : List (String × α)) : Dict α :=
  ⟨Entries.sort entries, Entries.sorted_sort entries⟩

/-- The value under a name. -/
def find? (d : Dict α) (name : String) : Option α := Entries.find? name d.entries

def contains (d : Dict α) (name : String) : Bool := (d.find? name).isSome

/-- Puts a value under a name, in place of the one that stands there. -/
def insert (d : Dict α) (name : String) (value : α) : Dict α :=
  ⟨Entries.insert name value d.entries, Entries.sorted_insert d.sorted⟩

/-- Puts a value under a name that has none. -/
def insertNew (d : Dict α) (name : String) (value : α) : Dict α :=
  if d.contains name then d else d.insert name value

/-- The names, ascending. -/
def keys (d : Dict α) : List String := d.entries.map Prod.fst

/-- Changes every value. -/
def map (f : α → β) (d : Dict α) : Dict β :=
  ⟨d.entries.map fun e => (e.1, f e.2), by
    have h := d.sorted
    unfold Entries.Sorted at h ⊢
    rw [List.pairwise_map]
    exact h⟩

@[simp] theorem ofList_entries (d : Dict α) : ofList d.entries = d := by
  obtain ⟨entries, h⟩ := d
  simp [ofList, Entries.sort_of_sorted h]

theorem find?_eq_some_iff {d : Dict α} {name : String} {value : α} :
    d.find? name = some value ↔ (name, value) ∈ d.entries :=
  Entries.find?_eq_some_iff d.sorted

theorem contains_iff {d : Dict α} {name : String} : d.contains name = true ↔ name ∈ d.keys := by
  unfold contains keys
  rw [Option.isSome_iff_exists, List.mem_map]
  constructor
  · rintro ⟨value, hvalue⟩
    exact ⟨(name, value), find?_eq_some_iff.mp hvalue, rfl⟩
  · rintro ⟨⟨_, value⟩, hentry, rfl⟩
    exact ⟨value, find?_eq_some_iff.mpr hentry⟩

@[simp] theorem find?_empty (name : String) : (empty : Dict α).find? name = none := rfl

theorem find?_insert (d : Dict α) (name other : String) (value : α) :
    (d.insert other value).find? name = if name = other then some value else d.find? name :=
  Entries.find?_insert name other value d.entries

/-- What has a value keeps it. -/
theorem find?_insertNew (d : Dict α) (name other : String) (value : α) :
    (d.insertNew other value).find? name =
      (d.find? name).or (if name = other then some value else none) := by
  unfold insertNew contains
  cases hother : d.find? other with
  | none =>
    rw [if_neg (by simp), find?_insert]
    by_cases heq : name = other
    · rw [heq, hother, if_pos rfl, Option.none_or]
    · rw [if_neg heq, if_neg heq, Option.or_none]
  | some found =>
    rw [if_pos (by simp)]
    by_cases heq : name = other
    · rw [heq, hother, Option.some_or]
    · rw [if_neg heq, Option.or_none]

/-- The last value of a name is the one that the map has. -/
theorem find?_ofList (entries : List (String × α)) (name : String) :
    (ofList entries).find? name = Entries.find? name entries.reverse :=
  Entries.find?_sort name entries

end Dict

end OpenstackAdmission
