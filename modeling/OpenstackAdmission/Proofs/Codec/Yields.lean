import OpenstackAdmission.Codec.Record

/-!
# What readers yield

A reader yields values with a property if everything that it reads has the property. What the fields of a record
yield the record has (`Yields.of_decode`), however it was written; and a payload that may be left out is never null
(`Yields.payload`).
-/

namespace OpenstackAdmission

theorem mapError_eq_ok_iff {ε δ α : Type} {x : Except ε α} {f : ε → δ} {a : α} :
    x.mapError f = .ok a ↔ x = .ok a := by
  cases x with
  | error e =>
    constructor
    · intro h
      cases h
    · intro h
      cases h
  | ok b =>
    show Except.ok b = Except.ok a ↔ Except.ok b = Except.ok a
    rw [Except.ok.injEq, Except.ok.injEq]

/-- No payload is null. -/
def NoNull (payloads : List Json) : Prop := ∀ payload ∈ payloads, payload.isNull = false

theorem noNull_append {payloads others : List Json} :
    NoNull (payloads ++ others) ↔ NoNull payloads ∧ NoNull others :=
  List.forall_mem_append

theorem exists_decode_of_mem {α : Type} [Codec α] {items : List Json} {values : List α}
    (h : decodeItems items = .ok values) : ∀ a ∈ values, ∃ item, decode item = .ok a := by
  -- the induction is on the items, since a list that fails at one of them has no values at all
  induction items generalizing values with
  | nil =>
    obtain rfl := Except.ok.inj h
    intro a ha
    cases ha
  | cons item rest ih =>
    unfold decodeItems at h
    cases hitem : (decode item : Except DecodeError α) with
    | error e =>
      rw [hitem] at h
      cases h
    | ok first =>
      rw [hitem] at h
      obtain ⟨others, hothers, rfl⟩ := map_eq_ok_iff.mp h
      intro a ha
      cases ha with
      | head => exact ⟨item, hitem⟩
      | tail _ ha => exact ih hothers a ha

/-- The values of a list that is read are read one by one. -/
theorem forall_mem_of_decode {α : Type} [Codec α] {P : α → Prop} {json : Json} {values : List α}
    (h : decode json = .ok values) (hvalue : ∀ json (a : α), decode json = .ok a → P a) :
    ∀ a ∈ values, P a := by
  intro a ha
  cases json with
  | arr items =>
    obtain ⟨item, hitem⟩ := exists_decode_of_mem h a ha
    exact hvalue item a hitem
  | _ => cases h

namespace Fields

variable {α β : Type} {layout : Layout} {place : Nat}

/-! ## Readings without fault -/

/-- Fields are read from the front, and what is behind them is read from where they end. Both have to
succeed. -/
theorem read_seq_eq_ok_iff {front : Fields (α → β)} {back : Fields α} {b : β} :
    (front <*> back).read layout place = .ok b ↔
      ∃ f a, front.read layout place = .ok f ∧ back.read layout (place + front.width) = .ok a ∧
        f a = b := by
  show (front.seq back).read layout place = .ok b ↔ _
  unfold seq
  dsimp only
  -- a fault in either part is a fault of both
  cases front.read layout place with
  | error faults =>
    cases back.read layout (place + front.width) <;>
      simp only [reduceCtorEq, false_and, exists_false]
  | ok f =>
    cases back.read layout (place + front.width) with
    | error faults => simp only [reduceCtorEq, false_and, and_false, exists_false]
    | ok a => simp only [Except.ok.injEq, exists_and_left, exists_eq_left']

theorem read_field_eq_ok_iff {name : String}
    {decodeField : Option Json → Except (Option DecodeError) α} {a : α} :
    (field name decodeField).read layout place = .ok a ↔
      decodeField (layout.find? name place) = .ok a := by
  unfold field
  dsimp only
  cases decodeField (layout.find? name place) with
  | error cause => simp only [reduceCtorEq]
  | ok a => simp only [Except.ok.injEq]

theorem decodeFieldValue_eq_ok_iff [Codec α] {json : Json} {a : α} :
    decodeFieldValue json = .ok a ↔ decode json = .ok a := by
  unfold decodeFieldValue
  cases (decode json : Except DecodeError α) with
  | error e => simp only [reduceCtorEq]
  | ok a => simp only [Except.ok.injEq]

/-- A record that is read has been read from one of the layouts. -/
theorem exists_read_of_decodeRecord {fields : Fields α} {record : String} {json : Json} {a : α}
    (h : Codec.decodeRecord record fields json = .ok a) :
    ∃ layout, fields.read layout 0 = .ok a := by
  -- a record is written as an object or as the list of its fields
  cases json with
  | arr items =>
    refine ⟨.placed items, ?_⟩
    unfold Codec.decodeRecord at h
    dsimp only at h
    cases hread : fields.read (.placed items) 0 with
    | error faults =>
      rw [hread] at h
      cases h
    | ok a =>
      rw [hread] at h
      dsimp only at h
      split at h
      · cases h
      · exact congrArg Except.ok (Except.ok.inj h)
  | obj entries => exact ⟨.named entries, mapError_eq_ok_iff.mp h⟩
  | _ => cases h

/-! ## Properties of what is read -/

/-- Whatever the fields are read as has a property. -/
def Yields (fields : Fields α) (P : α → Prop) : Prop :=
  ∀ layout place a, fields.read layout place = .ok a → P a

namespace Yields

variable {P : β → Prop} {Q : α → Prop}

/-- What fields yield together follows from what the front yields of everything that the back may yield. -/
theorem seq {front : Fields (α → β)} {back : Fields α}
    (hfront : front.Yields fun f => ∀ a, Q a → P (f a)) (hback : back.Yields Q) :
    (front <*> back).Yields P := by
  intro layout place b h
  obtain ⟨f, a, hf, ha, rfl⟩ := read_seq_eq_ok_iff.mp h
  exact hfront layout place f hf a (hback layout _ a ha)

/-- The fields behind may be read as anything. -/
theorem seqAny {front : Fields (α → β)} {back : Fields α}
    (hfront : front.Yields fun f => ∀ a, P (f a)) : (front <*> back).Yields P := by
  intro layout place b h
  obtain ⟨f, a, hf, -, rfl⟩ := read_seq_eq_ok_iff.mp h
  exact hfront layout place f hf a

theorem mapAny {f : α → β} {fields : Fields α} (h : ∀ a, P (f a)) : (f <$> fields).Yields P := by
  intro layout place b hb
  obtain ⟨a, -, rfl⟩ := map_eq_ok_iff.mp hb
  exact h a

/-- A field yields what its reader makes of no value and of any value. -/
theorem field {name : String} {decodeField : Option Json → Except (Option DecodeError) α}
    (hnone : ∀ a, decodeField none = .ok a → Q a)
    (hsome : ∀ json a, decodeField (some json) = .ok a → Q a) :
    (Fields.field name decodeField).Yields Q := by
  intro layout place a h
  have hread := read_field_eq_ok_iff.mp h
  cases hvalue : layout.find? name place with
  | none => exact hnone a (hvalue ▸ hread)
  | some json => exact hsome json a (hvalue ▸ hread)

/-- A field that has to be there yields what its values are always like. -/
theorem required [Codec α] {name : String} (hdecode : ∀ json (a : α), decode json = .ok a → Q a) :
    (Fields.required name).Yields Q :=
  field nofun fun json a h => hdecode json a (decodeFieldValue_eq_ok_iff.mp h)

/-- A field that may be missing yields what the default is like as well as the values that are stated. -/
theorem defaulted [Codec α] {name : String} {default : α} (hdefault : Q default)
    (hdecode : ∀ json (a : α), decode json = .ok a → Q a) :
    (Fields.defaulted name default).Yields Q :=
  field (fun _ h => Except.ok.inj h ▸ hdefault)
    fun json a h => hdecode json a (decodeFieldValue_eq_ok_iff.mp h)

/-- A null is read as no payload. -/
theorem payload {name : String} :
    (Fields.optional name : Fields (Option Json)).Yields fun payload => NoNull payload.toList := by
  refine field ?none ?some
  case none =>
    intro payload h
    obtain rfl := Except.ok.inj h
    exact nofun
  case some =>
    intro json payload h
    dsimp only at h
    split at h
    · obtain rfl := Except.ok.inj h
      exact nofun
    · next hnull =>
      obtain ⟨_, hjson, rfl⟩ := map_eq_ok_iff.mp h
      obtain rfl := Except.ok.inj (decodeFieldValue_eq_ok_iff.mp hjson)
      intro p hp
      rw [Option.toList_some, List.mem_singleton] at hp
      rw [hp, Bool.eq_false_iff.mpr hnull]

/-- A record has what its fields yield, whether it is read from an object or from a list. -/
theorem of_decode {fields : Fields α} (h : fields.Yields Q) {record : String} {json : Json} {a : α}
    (hdecode : Codec.decodeRecord record fields json = .ok a) : Q a := by
  obtain ⟨layout, hread⟩ := exists_read_of_decodeRecord hdecode
  exact h layout 0 a hread

end Yields

end Fields

end OpenstackAdmission
