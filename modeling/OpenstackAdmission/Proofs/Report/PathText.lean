import OpenstackAdmission.Report.FieldError

/-!
# Texts of paths

Errors are shown under the text of their path. Three kinds of steps share few signs there: positions and keys stand in
the same brackets, and the field at the front has no dot.

> `knownByText_of_isPlain`: paths of plain steps are told apart by their texts. In a list of errors at such paths, those
under one text are the errors of one place.

A text is read from the front. A step begins with a sign that tells whether it is a field, and its body ends where
nothing of the kind can go on: a field at the next dot or bracket, or at the end, all else at the closing bracket
(`eq_of_append_eq`). So the first steps of two equal texts are equal, and so are the rests (`eq_of_segmentText_append`).
Positions and keys are told apart by their bodies, since a plain key is no numeral (`Segment.eq_of_body`).
-/

namespace OpenstackAdmission

/-! ## Plain steps -/

/-- The text of a position in a list. -/
def IsNumeral (name : String) : Prop := ∃ position : Nat, toString position = name

/-- A position is read back from its text. -/
theorem ofDigitChars_toString (position : Nat) : Nat.ofDigitChars 10 (toString position).toList 0 = position := by
  rw [Nat.toString_eq_repr, Nat.toList_repr, Nat.ofDigitChars_ten_toDigits]

/-- A name is a numeral exactly if it is what the number behind its digits is written as. -/
theorem isNumeral_iff {name : String} :
    IsNumeral name ↔ toString (Nat.ofDigitChars 10 name.toList 0) = name := by
  constructor
  · rintro ⟨position, rfl⟩
    rw [ofDigitChars_toString]
  · intro h
    exact ⟨_, h⟩

instance (name : String) : Decidable (IsNumeral name) := decidable_of_iff _ isNumeral_iff.symm

namespace Segment

/-- Names of fields have no sign with a meaning in paths, and keys do not look like positions. -/
def IsPlain : Segment → Prop
  | .field name => name ≠ "" ∧ '.' ∉ name.toList ∧ '[' ∉ name.toList ∧ ']' ∉ name.toList
  | .index _ => True
  | .key name => '[' ∉ name.toList ∧ ']' ∉ name.toList ∧ ¬ IsNumeral name

instance : DecidablePred IsPlain
  | .field name => inferInstanceAs
      (Decidable (name ≠ "" ∧ '.' ∉ name.toList ∧ '[' ∉ name.toList ∧ ']' ∉ name.toList))
  | .index _ => isTrue trivial
  | .key name => inferInstanceAs
      (Decidable ('[' ∉ name.toList ∧ ']' ∉ name.toList ∧ ¬ IsNumeral name))

def isField : Segment → Bool
  | .field _ => true
  | _ => false

/-- What a step writes behind the dot or between the brackets. -/
def body : Segment → String
  | .field name => name
  | .index position => toString position
  | .key name => name

variable {s t : Segment}

/-- Plain steps of one kind of sign and with one body are the same. -/
theorem eq_of_body (hs : s.IsPlain) (ht : t.IsPlain) (hkind : s.isField = t.isField)
    (hbody : s.body = t.body) : s = t := by
  cases s with
  | field name =>
    cases t with
    | field other => exact congrArg field hbody
    | index position => cases hkind
    | key other => cases hkind
  | index position =>
    cases t with
    | field other => cases hkind
    | index other =>
      have hnumber := congrArg (fun text => Nat.ofDigitChars 10 text.toList 0) hbody
      simp only [body, ofDigitChars_toString] at hnumber
      exact congrArg index hnumber
    -- a key that is written like a position is not plain
    | key other => exact absurd ⟨position, hbody⟩ ht.2.2
  | key name =>
    cases t with
    | field other => cases hkind
    | index position => exact absurd ⟨position, hbody.symm⟩ hs.2.2
    | key other => exact congrArg key hbody

/-- Nothing in brackets closes them. -/
theorem ne_bracket_of_mem_body (hs : s.IsPlain) {c : Char} (hc : c ∈ s.body.toList) : c ≠ ']' := by
  rintro rfl
  cases s with
  | field name => exact hs.2.2.2 hc
  | index position =>
    have hmem : ']' ∈ Nat.toDigits 10 position := by
      rw [← Nat.toList_repr]
      exact hc
    have hdigit : (']' : Char).isDigit = true :=
      Nat.isDigit_of_mem_toDigits (by decide) (Nat.le_refl 10) hmem
    exact absurd hdigit (by decide)
  | key name => exact hs.2.1 hc

end Segment

/-! ## Reading a step from the front -/

/-- Two texts that begin with signs of one class, as many of them as there are, have one beginning and one rest. -/
theorem eq_of_append_eq {α : Type} {p : α → Bool} {front other rest others : List α}
    (hfront : ∀ c ∈ front, p c = true) (hother : ∀ c ∈ other, p c = true)
    (hrest : ∀ c ∈ rest.head?, p c = false) (hothers : ∀ c ∈ others.head?, p c = false)
    (h : front ++ rest = other ++ others) : front = other ∧ rest = others := by
  have takes {front rest : List α} (hfront : ∀ c ∈ front, p c = true) (hrest : ∀ c ∈ rest.head?, p c = false) :
      (front ++ rest).takeWhile p = front := by
    rw [List.takeWhile_append_of_pos hfront]
    cases rest with
    | nil => simp
    | cons c rest => simp [hrest c rfl]
  have hsame : front = other := by
    rw [← takes hfront hrest, ← takes hother hothers, h]
  subst hsame
  exact ⟨rfl, List.append_cancel_left h⟩

namespace FieldPath

/-- A text behind the name of a field, which does not go on there. -/
def EndsField (rest : List Char) : Prop := ∀ c ∈ rest.head?, c = '.' ∨ c = '['

variable {s t : Segment} {rest others : List Char} {segments more : List Segment} {path other : FieldPath}

/-- A field is written behind a dot, and an index or a key between brackets. -/
theorem toList_segmentText (s : Segment) :
    (segmentText s).toList =
      if s.isField then '.' :: s.body.toList else '[' :: (s.body.toList ++ [']']) := by
  cases s <;> simp [segmentText, Segment.isField, Segment.body]

theorem restText_cons (s : Segment) (segments : List Segment) :
    (restText (s :: segments)).toList = (segmentText s).toList ++ (restText segments).toList := by
  unfold restText
  rw [List.map_cons, String.join_cons, String.toList_append]

theorem endsField_restText (segments : List Segment) : EndsField (restText segments).toList := by
  intro c hc
  cases segments with
  | nil => cases hc
  | cons s segments =>
    rw [restText_cons, toList_segmentText] at hc
    cases hkind : s.isField with
    | true =>
      rw [hkind] at hc
      exact .inl (Option.some.inj hc).symm
    | false =>
      rw [hkind] at hc
      exact .inr (Option.some.inj hc).symm

/-- The name of a field is read from the front of what stands behind its dot. -/
theorem eq_of_field_append (hs : s.IsPlain) (ht : t.IsPlain) (hfield : s.isField = true)
    (hfield' : t.isField = true) (hrest : EndsField rest) (hothers : EndsField others)
    (h : s.body.toList ++ rest = t.body.toList ++ others) : s = t ∧ rest = others := by
  have hplain {s : Segment} (hs : s.IsPlain) (hfield : s.isField = true) :
      ∀ c ∈ s.body.toList, decide (c ≠ '.' ∧ c ≠ '[') = true := by
    cases s with
    | field name =>
      obtain ⟨-, hdot, hbracket, -⟩ := hs
      intro c hc
      refine decide_eq_true ⟨?_, ?_⟩
      · rintro rfl
        exact hdot hc
      · rintro rfl
        exact hbracket hc
    | index position => cases hfield
    | key name => cases hfield
  -- a name ends at the next dot or bracket, which is why it may hold neither
  have hstop {rest : List Char} (hrest : EndsField rest) : ∀ c ∈ rest.head?, decide (c ≠ '.' ∧ c ≠ '[') = false := by
    intro c hc
    rcases hrest c hc with rfl | rfl <;> rfl
  obtain ⟨hbody, hsame⟩ :=
    eq_of_append_eq (hplain hs hfield) (hplain ht hfield') (hstop hrest) (hstop hothers) h
  exact ⟨Segment.eq_of_body hs ht (hfield.trans hfield'.symm) (String.toList_inj.mp hbody), hsame⟩

/-- What stands in brackets is read from the front of what stands behind the opening one. -/
theorem eq_of_bracket_append (hs : s.IsPlain) (ht : t.IsPlain) (hkind : s.isField = t.isField)
    (h : s.body.toList ++ ']' :: rest = t.body.toList ++ ']' :: others) : s = t ∧ rest = others := by
  have hplain {s : Segment} (hs : s.IsPlain) : ∀ c ∈ s.body.toList, decide (c ≠ ']') = true := by
    intro c hc
    exact decide_eq_true (s.ne_bracket_of_mem_body hs hc)
  have hstop (rest : List Char) : ∀ c ∈ (']' :: rest).head?, decide (c ≠ ']') = false := by
    intro c hc
    obtain rfl := Option.some.inj hc
    rfl
  obtain ⟨hbody, hsame⟩ := eq_of_append_eq (hplain hs) (hplain ht) (hstop rest) (hstop others) h
  exact ⟨Segment.eq_of_body hs ht hkind (String.toList_inj.mp hbody), List.tail_eq_of_cons_eq hsame⟩

/-- **One step is read from the front.** Texts that begin with plain steps and are equal begin with the same step. -/
theorem eq_of_segmentText_append (hs : s.IsPlain) (ht : t.IsPlain) (hrest : EndsField rest)
    (hothers : EndsField others) (h : (segmentText s).toList ++ rest = (segmentText t).toList ++ others) :
    s = t ∧ rest = others := by
  rw [toList_segmentText, toList_segmentText] at h
  -- the first character tells a field from a position or a key
  cases hfield : s.isField <;> cases hfield' : t.isField <;> rw [hfield, hfield'] at h
  · have hbracket : s.body.toList ++ ']' :: rest = t.body.toList ++ ']' :: others := by
      simpa using h
    exact eq_of_bracket_append hs ht (hfield.trans hfield'.symm) hbracket
  · cases (List.cons.inj h).1
  · cases (List.cons.inj h).1
  · exact eq_of_field_append hs ht hfield hfield' hrest hothers (List.cons.inj h).2

/-! ## Whole paths -/

/-- The induction is on the steps: the first of them are the same, and so are the texts behind them. -/
theorem eq_of_restText (hplain : ∀ s ∈ segments, s.IsPlain) (hplain' : ∀ s ∈ more, s.IsPlain)
    (h : (restText segments).toList = (restText more).toList) : segments = more := by
  have notEmpty (s : Segment) (segments : List Segment) : [] ≠ (restText (s :: segments)).toList := by
    rw [restText_cons, toList_segmentText]
    cases s.isField <;> simp
  induction segments generalizing more with
  | nil =>
    cases more with
    | nil => rfl
    | cons t more => exact absurd h (notEmpty t more)
  | cons s segments ih =>
    cases more with
    | nil => exact absurd h.symm (notEmpty s segments)
    | cons t more =>
      rw [List.forall_mem_cons] at hplain hplain'
      rw [restText_cons, restText_cons] at h
      obtain ⟨rfl, hrest⟩ := eq_of_segmentText_append hplain.1 hplain'.1 (endsField_restText segments)
        (endsField_restText more) h
      rw [ih hplain.2 hplain'.2 hrest]

/-- All steps of the path are plain. -/
def IsPlain (path : FieldPath) : Prop := ∀ s ∈ path.segments, s.IsPlain

instance : DecidablePred IsPlain :=
  fun path => inferInstanceAs (Decidable (∀ s ∈ path.segments, s.IsPlain))

/-- A path that begins with a field. -/
def startsWithField (path : FieldPath) : Bool := path.segments.head?.any Segment.isField

/-- The text of a path lacks but the dot of a field at the front. -/
theorem restText_eq (path : FieldPath) :
    restText path.segments = if path.startsWithField then "." ++ path.text else path.text := by
  obtain ⟨segments⟩ := path
  unfold startsWithField text
  cases segments with
  | nil => rfl
  | cons s segments =>
    cases s with
    | field name => simp [restText, segmentText, Segment.isField, String.append_assoc]
    | index position => rfl
    | key name => rfl

/-- Whether a plain path begins with a field is seen at the front of its text. -/
theorem startsWithField_iff (h : path.IsPlain) :
    path.startsWithField = true ↔ ∃ c ∈ path.text.toList.head?, c ≠ '[' := by
  obtain ⟨segments⟩ := path
  unfold startsWithField text
  cases segments with
  | nil => simp [restText]
  | cons s segments =>
    cases s with
    | field name =>
      obtain ⟨hne, -, hbracket, -⟩ := h (.field name) (.head _)
      obtain ⟨c, cs, hname⟩ := List.exists_cons_of_ne_nil (mt String.toList_eq_nil_iff.mp hne)
      have hc : c ≠ '[' := by
        rintro rfl
        exact hbracket (hname ▸ .head _)
      simp [Segment.isField, hname, hc]
    | index position => simp [Segment.isField, restText_cons, toList_segmentText]
    | key name => simp [Segment.isField, restText_cons, toList_segmentText]

/-- Plain paths with one text have the same segments. The text shows whether there is a field in front, and
the segments are read off one by one then. -/
theorem eq_of_text (h : path.IsPlain) (hother : other.IsPlain) (htext : path.text = other.text) :
    path.segments = other.segments := by
  have hfront : path.startsWithField = other.startsWithField := by
    rw [Bool.eq_iff_iff, startsWithField_iff h, startsWithField_iff hother, htext]
  apply eq_of_restText h hother
  rw [restText_eq, restText_eq, hfront, htext]

/-- What the text of a path is good for. -/
structure KnownByText (path : FieldPath) : Prop where
  /-- Other plain paths have other texts. -/
  eq_iff : ∀ other : FieldPath, other.IsPlain → (path.text = other.text ↔ path.segments = other.segments)
  /-- The errors that are shown under the text are those of the place. -/
  errors_eq : ∀ errors : List FieldError, (∀ e ∈ errors, e.path.IsPlain) →
    errors.filter (·.path.text = path.text) = errors.filter (·.path = path)

/-- **A plain path is known by its text.** -/
theorem knownByText_of_isPlain (h : path.IsPlain) : KnownByText path := by
  constructor
  case eq_iff =>
    intro other hother
    constructor
    · exact eq_of_text h hother
    · intro hsegments
      rw [show path = other from congrArg FieldPath.mk hsegments]
  case errors_eq =>
    intro errors herrors
    apply List.filter_congr
    intro e he
    have hplace : e.path.text = path.text ↔ e.path = path := by
      constructor
      · intro htext
        exact congrArg FieldPath.mk (eq_of_text (herrors e he) h htext)
      · intro heq
        rw [heq]
    exact decide_eq_decide.mpr hplace

/-- A path with all kinds of steps; the key begins like a position and holds a dot. -/
def pathOfLabel : FieldPath :=
  (((ofFields ["workers"]).index 10).child "labels").key "10.example"

/-- Of errors whose paths look alike, the one at the place is shown under the text of the path. -/
theorem knownByText_pathOfLabel :
    let errors : List FieldError := [
      .required (((ofFields ["workers"]).index 1).child "labels") "",
      .required pathOfLabel "must be set",
      .required (((ofFields ["workers"]).index 10).child "labels") ""]
    pathOfLabel.IsPlain ∧ pathOfLabel.text = "workers[10].labels[10.example]" ∧
      (∀ e ∈ errors, e.path.IsPlain) ∧ KnownByText pathOfLabel ∧
      errors.filter (·.path.text = pathOfLabel.text) = [.required pathOfLabel "must be set"] := by
  intro errors
  have hplain : pathOfLabel.IsPlain := by decide
  have hall : ∀ e ∈ errors, e.path.IsPlain := by decide
  have hknown : KnownByText pathOfLabel := knownByText_of_isPlain hplain
  refine ⟨hplain, by decide, hall, hknown, ?_⟩
  rw [hknown.errors_eq errors hall]
  rfl

/-- Other steps share their texts: a root with dots is shown like several fields, a key that is a numeral like a
position. -/
example : (root "spec.providerConfig").text = (ofFields ["spec", "providerConfig"]).text ∧
    ((root "labels").key "0").text = ((root "labels").index 0).text := by decide

end FieldPath

end OpenstackAdmission
