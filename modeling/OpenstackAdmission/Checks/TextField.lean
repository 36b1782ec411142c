import OpenstackAdmission.Report.FieldError
import OpenstackAdmission.Text.Uuid

/-!
# Checks of texts

Small checks of a text in a field, which are put together with `TextCheck.all`. Checks of a form accept the
empty text, so that an empty value is reported once, by `notEmpty`.

The primitives `all`, `not_empty`, `max_length`, `regex`, `uuid` and `one_of_ignore_case`, and the
validators that `FieldValidators` puts together from them (specification, section 4.1).
-/

namespace OpenstackAdmission

/-- A check of a text, given the path of its field. -/
abbrev TextCheck := String → FieldPath → List FieldError

namespace TextCheck

/-- All errors of some checks. -/
def all (checks : List TextCheck) : TextCheck := fun text path =>
  checks.flatMap fun check => check text path

def notEmpty : TextCheck := fun text path =>
  errorIf (text = "") (.required path "cannot be empty")

/-- At most `bound` characters. -/
def maxLength (bound : Nat) : TextCheck := fun text path =>
  errorIf (bound < text.length)
    (.invalid path (.str text)
      s!"must not be more than {bound} characters, got {text.length}")

/-- Braces, brackets and line feeds, which names of resources may not hold. -/
def isStructural (c : Char) : Bool := c ∈ ['\x7b', '\x7d', '[', ']', '\n']

/-- The pattern that names of resources match: one or more characters, none of them structural. -/
def resourceNamePattern : String := "^[^\x7b\x7d\\[\\]\\n]+$"

/-- No structural characters. -/
def plainName : TextCheck := fun text path =>
  errorIf (text.toList.any isStructural)
    (.invalid path (.str text) ("does not match expected regex " ++ resourceNamePattern))

def uuid : TextCheck := fun text path =>
  errorIf (text ≠ "" && !Text.Uuid.isUuid text)
    (.invalid path (.str text) "must be a valid UUID")

/-- The same text but for the case of ASCII letters. -/
def sameIgnoringCase (a b : String) : Bool :=
  a.toList.map Char.toLower == b.toList.map Char.toLower

/-- One of some texts, whatever their case. -/
def oneOf (allowed : List String) : TextCheck := fun text path =>
  errorIf (text ≠ "" && !allowed.any (sameIgnoringCase · text))
    (.notSupported path (.str text) allowed)

/-- The greatest length of names of resources and values of labels, in characters. -/
def nameBound : Nat := 255

/-- The name of a resource, which may be left empty. -/
def optionalResourceName : TextCheck := all [plainName, maxLength nameBound]

/-- The name of a resource. -/
def resourceName : TextCheck := all [notEmpty, plainName, maxLength nameBound]

/-- The ID of a resource. -/
def resourceId : TextCheck := all [notEmpty, uuid]

/-- The name of a label of a machine. -/
def machineLabelName : TextCheck := resourceName

/-- The value of a label of a machine. -/
def machineLabelValue : TextCheck := resourceName

/-- What happens to volumes that nobody claims any more. -/
def reclaimPolicies : List String := ["Delete", "Retain"]

/-- When volumes are bound. -/
def volumeBindingModes : List String := ["Immediate", "WaitForFirstConsumer"]

def reclaimPolicy : TextCheck := oneOf reclaimPolicies

def volumeBindingMode : TextCheck := oneOf volumeBindingModes

/-! ## What passes -/

section Passes

variable {text : String} {path : FieldPath} {checks : List TextCheck}

theorem all_eq_nil_iff : all checks text path = [] ↔ ∀ check ∈ checks, check text path = [] :=
  List.flatMap_eq_nil_iff

@[simp] theorem notEmpty_eq_nil_iff : notEmpty text path = [] ↔ text ≠ "" := by
  unfold notEmpty
  rw [errorIf_eq_nil_iff, decide_eq_false_iff_not]

@[simp] theorem maxLength_eq_nil_iff {bound : Nat} :
    maxLength bound text path = [] ↔ text.length ≤ bound := by
  unfold maxLength
  rw [errorIf_eq_nil_iff, decide_eq_false_iff_not, Nat.not_lt]

@[simp] theorem plainName_eq_nil_iff :
    plainName text path = [] ↔ ∀ c ∈ text.toList, isStructural c = false := by
  unfold plainName
  rw [errorIf_eq_nil_iff, List.any_eq_false]
  simp only [Bool.not_eq_true]

@[simp] theorem uuid_eq_nil_iff :
    uuid text path = [] ↔ text = "" ∨ Text.Uuid.isUuid text = true := by
  unfold uuid
  rw [errorIf_eq_nil_iff, Bool.and_eq_false_iff, decide_eq_false_iff_not, Bool.not_eq_false',
    Decidable.not_not]

/-- A name of a resource that may be left empty: not too long, and without structural characters. -/
@[simp] theorem optionalResourceName_eq_nil_iff :
    optionalResourceName text path = [] ↔
      text.length ≤ nameBound ∧ ∀ c ∈ text.toList, isStructural c = false := by
  unfold optionalResourceName
  simp only [all_eq_nil_iff, List.forall_mem_cons, List.not_mem_nil, false_implies, implies_true,
    plainName_eq_nil_iff, maxLength_eq_nil_iff, and_true]
  exact And.comm

/-- A name of a resource has a character besides. -/
@[simp] theorem resourceName_eq_nil_iff :
    resourceName text path = [] ↔
      text ≠ "" ∧ text.length ≤ nameBound ∧ ∀ c ∈ text.toList, isStructural c = false := by
  unfold resourceName
  rw [all_eq_nil_iff, List.forall_mem_cons, notEmpty_eq_nil_iff, ← all_eq_nil_iff]
  exact and_congr_right fun _ => optionalResourceName_eq_nil_iff

@[simp] theorem resourceId_eq_nil_iff :
    resourceId text path = [] ↔ text ≠ "" ∧ Text.Uuid.isUuid text = true := by
  unfold resourceId
  simp only [all_eq_nil_iff, List.forall_mem_cons, List.not_mem_nil, false_implies, implies_true,
    notEmpty_eq_nil_iff, uuid_eq_nil_iff, and_true]
  exact and_congr_right fun h => or_iff_right h

end Passes

end TextCheck

end OpenstackAdmission
