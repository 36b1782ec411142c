import OpenstackAdmission.Json.Printer
import OpenstackAdmission.Report.Ascending
import OpenstackAdmission.Report.FieldPath
import OpenstackAdmission.Text.Quoted

/-!
# Errors of fields

What is wrong with a field of a document. Checks return all errors they find, in order; `errorsText` is
the text of such a list.

What `FieldError`, `ErrorKind` and `ErrorList` are to all checks (specification, sections 6 and 7).
-/

namespace OpenstackAdmission

/-- What is wrong with a field. -/
inductive Problem where
  | required (detail : String)
  | invalid (value : Json) (detail : String)
  | forbidden (detail : String)
  | duplicate (value : Json)
  /-- A value which is none of the supported ones. -/
  | notSupported (value : Json) (supported : List String)
  /-- The check itself could not be made. -/
  | internal (detail : String)

/-- A problem of the field at a path. -/
structure FieldError where
  path : FieldPath
  problem : Problem

namespace Problem

/-- The rejected value, if the problem holds one. -/
def value? : Problem → Option Json
  | .invalid value _ => some value
  | .duplicate value => some value
  | .notSupported value _ => some value
  | _ => none

/-- The detail, or the empty text. -/
def detail : Problem → String
  | .required detail => detail
  | .invalid _ detail => detail
  | .forbidden detail => detail
  | .internal detail => detail
  | _ => ""

/-- The supported values that the problem lists. -/
def supported : Problem → List String
  | .notSupported _ supported => supported
  | _ => []

/-- What the problem is called in texts. -/
def title : Problem → String
  | .required _ => "Required value"
  | .invalid .. => "Invalid value"
  | .forbidden _ => "Forbidden"
  | .duplicate _ => "Duplicate value"
  | .notSupported .. => "Unsupported value"
  | .internal _ => "Internal error"

/-- What follows the title and the value. -/
def ending : Problem → String
  | .notSupported _ supported =>
    ": supported values: " ++ String.intercalate ", " (supported.map Text.quoted)
  | problem => if problem.detail = "" then "" else ": " ++ problem.detail

def text (problem : Problem) : String :=
  let value := match problem.value? with
    | some value => ": " ++ value.text
    | none => ""
  problem.title ++ value ++ problem.ending

/-- Equality of problems, in which the two zeros are one number. -/
def same : Problem → Problem → Bool
  | .required a, .required b => a == b
  | .invalid v a, .invalid w b => v == w && a == b
  | .forbidden a, .forbidden b => a == b
  | .duplicate v, .duplicate w => v == w
  | .notSupported v a, .notSupported w b => v == w && a == b
  | .internal a, .internal b => a == b
  | _, _ => false

instance : BEq Problem := ⟨same⟩

end Problem

namespace FieldError

def required (path : FieldPath) (detail : String) : FieldError := ⟨path, .required detail⟩

def invalid (path : FieldPath) (value : Json) (detail : String) : FieldError :=
  ⟨path, .invalid value detail⟩

def forbidden (path : FieldPath) (detail : String) : FieldError := ⟨path, .forbidden detail⟩

def duplicate (path : FieldPath) (value : Json) : FieldError := ⟨path, .duplicate value⟩

/-- A value is not supported. The supported values are listed in order, each once. -/
def notSupported (path : FieldPath) (value : Json) (supported : List String) : FieldError :=
  ⟨path, .notSupported value (ascending supported)⟩

def internal (path : FieldPath) (detail : String) : FieldError := ⟨path, .internal detail⟩

def text (e : FieldError) : String := e.path.text ++ ": " ++ e.problem.text

instance : BEq FieldError := ⟨fun a b => a.path == b.path && a.problem == b.problem⟩

end FieldError

/-- The text of a list of errors: several stand in brackets. -/
def errorsText (errors : List FieldError) : String :=
  let text := String.intercalate ", " (errors.map FieldError.text)
  if 1 < errors.length then "[" ++ text ++ "]" else text

/-- Checks every item at its index. -/
def checkEach {α : Type} (path : FieldPath) (items : List α)
    (check : FieldPath → α → List FieldError) : List FieldError :=
  items.zipIdx.flatMap fun (item, i) => check (path.index i) item

/-- Checks every item at its index, given the items before it. -/
def checkEachAfter {α : Type} (path : FieldPath) (items : List α)
    (check : FieldPath → List α → α → List FieldError) : List FieldError :=
  items.zipIdx.flatMap fun (item, i) => check (path.index i) (items.take i) item

/-- An error under a condition. -/
def errorIf (condition : Bool) (error : FieldError) : List FieldError :=
  if condition then [error] else []

@[simp] theorem errorIf_eq_nil_iff {condition : Bool} {error : FieldError} :
    errorIf condition error = [] ↔ condition = false := by
  cases condition <;> simp [errorIf]

/-- A check of all items finds nothing exactly if it finds nothing at any index. -/
theorem checkEach_eq_nil_iff {α : Type} {path : FieldPath} {items : List α}
    {check : FieldPath → α → List FieldError} :
    checkEach path items check = [] ↔
      ∀ i item, items[i]? = some item → check (path.index i) item = [] := by
  unfold checkEach
  rw [List.flatMap_eq_nil_iff]
  constructor
  · intro h i item hi
    exact h (item, i) (List.mem_zipIdx_iff_getElem?.mpr hi)
  · rintro h ⟨item, i⟩ hi
    exact h i item (List.mem_zipIdx_iff_getElem?.mp hi)

/-- What is found in a list is found at an index. -/
theorem mem_checkEach {α : Type} {path : FieldPath} {items : List α}
    {check : FieldPath → α → List FieldError} {error : FieldError} :
    error ∈ checkEach path items check ↔
      ∃ i item, items[i]? = some item ∧ error ∈ check (path.index i) item := by
  unfold checkEach
  rw [List.mem_flatMap]
  constructor
  · rintro ⟨⟨item, i⟩, hi, herror⟩
    exact ⟨i, item, List.mem_zipIdx_iff_getElem?.mp hi, herror⟩
  · rintro ⟨i, item, hi, herror⟩
    exact ⟨(item, i), List.mem_zipIdx_iff_getElem?.mpr hi, herror⟩

/-- What is found nowhere in a list is found at no item. -/
theorem check_eq_nil_of_checkEach {α : Type} {path : FieldPath} {items : List α}
    {check : FieldPath → α → List FieldError} (h : checkEach path items check = []) {item : α}
    (hmem : item ∈ items) : ∃ i, check (path.index i) item = [] := by
  obtain ⟨i, hi⟩ := List.mem_iff_getElem?.mp hmem
  exact ⟨i, checkEach_eq_nil_iff.mp h i item hi⟩

/-- Where the index does not matter for what a check finds, a check of all items is about members. -/
theorem checkEach_eq_nil_iff_forall_mem {α : Type} {path : FieldPath} {items : List α}
    {check : FieldPath → α → List FieldError} {passes : α → Prop}
    (h : ∀ i item, check (path.index i) item = [] ↔ passes item) :
    checkEach path items check = [] ↔ ∀ item ∈ items, passes item := by
  constructor
  · intro hnil item hmem
    obtain ⟨i, hi⟩ := check_eq_nil_of_checkEach hnil hmem
    exact (h i item).mp hi
  · intro hall
    rw [checkEach_eq_nil_iff]
    intro i item hi
    exact (h i item).mpr (hall item (List.mem_of_getElem? hi))

/-- A check of changed items is a check of the items, if it finds the same at each of them. -/
theorem checkEach_map {α β : Type} {path : FieldPath} {items : List α} {change : α → β}
    {check : FieldPath → β → List FieldError} {checkBefore : FieldPath → α → List FieldError}
    (h : ∀ path, ∀ item ∈ items, check path (change item) = checkBefore path item) :
    checkEach path (items.map change) check = checkEach path items checkBefore := by
  unfold checkEach
  rw [List.zipIdx_map, List.flatMap_map, List.flatMap_def, List.flatMap_def]
  refine congrArg List.flatten (List.map_congr_left ?_)
  rintro ⟨item, i⟩ hi
  exact h _ item (List.mem_of_getElem? (List.mem_zipIdx_iff_getElem?.mp hi))

/-- The items before an index. -/
theorem mem_take_iff {α : Type} {items : List α} {i : Nat} {item : α} :
    item ∈ items.take i ↔ ∃ j, j < i ∧ items[j]? = some item := by
  rw [List.mem_iff_getElem?]
  simp only [List.getElem?_take, Option.ite_none_right_eq_some]

/-- What holds between every item and those before it holds of all pairs in order. -/
theorem forall_take_iff_pairwise {α : Type} {items : List α} {related : α → α → Prop} :
    (∀ i item, items[i]? = some item → ∀ earlier ∈ items.take i, related earlier item) ↔
      items.Pairwise related := by
  rw [List.pairwise_iff_getElem]
  constructor
  · intro h i j hi hj hlt
    have hbefore : items[i] ∈ items.take j :=
      mem_take_iff.mpr ⟨i, hlt, List.getElem?_eq_getElem hi⟩
    exact h j items[j] (List.getElem?_eq_getElem hj) items[i] hbefore
  · intro h j item hitem earlier hearlier
    obtain ⟨i, hlt, hi⟩ := mem_take_iff.mp hearlier
    obtain ⟨hj, rfl⟩ := List.getElem?_eq_some_iff.mp hitem
    obtain ⟨hbound, rfl⟩ := List.getElem?_eq_some_iff.mp hi
    exact h i j hbound hj hlt

/-- Where the index does not matter for what a check finds, and an item is to be apart from those before it,
a check of all items is about members and pairs of them. -/
theorem checkEachAfter_eq_nil_iff {α : Type} {path : FieldPath} {items : List α}
    {check : FieldPath → List α → α → List FieldError} {apart : α → α → Prop} {passes : α → Prop}
    (h : ∀ i earlier item, check (path.index i) earlier item = [] ↔
      (∀ e ∈ earlier, apart e item) ∧ passes item) :
    checkEachAfter path items check = [] ↔
      items.Pairwise apart ∧ ∀ item ∈ items, passes item := by
  -- members are addressed by their index, as the items before them are
  have hmem : (∀ item ∈ items, passes item) ↔ ∀ (i : Nat) item, items[i]? = some item → passes item := by
    simp only [List.mem_iff_getElem?, forall_exists_index]
    exact forall_comm
  unfold checkEachAfter
  rw [List.flatMap_eq_nil_iff, ← forall_take_iff_pairwise, hmem]
  constructor
  · intro hnil
    have hitem : ∀ (i : Nat) item, items[i]? = some item →
        (∀ e ∈ items.take i, apart e item) ∧ passes item := fun i item hi =>
      (h i _ item).mp (hnil (item, i) (List.mem_zipIdx_iff_getElem?.mpr hi))
    exact ⟨fun i item hi => (hitem i item hi).1, fun i item hi => (hitem i item hi).2⟩
  · rintro ⟨hapart, hpasses⟩ ⟨item, i⟩ hi
    have hi := List.mem_zipIdx_iff_getElem?.mp hi
    exact (h i _ item).mpr ⟨hapart i item hi, hpasses i item hi⟩

end OpenstackAdmission
