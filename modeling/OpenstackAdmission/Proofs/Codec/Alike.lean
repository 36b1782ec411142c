import OpenstackAdmission.Codec.Record

/-!
# Two runs side by side

Two runs end alike if both fail with the same error or both have a result, and the results are related.

Records that agree in what some fields read are read alike as far as these fields go (`Fields.alike_seq`): every
fault is found on both sides, so the relation of the results is all that has to be shown.
-/

namespace OpenstackAdmission

/-- Two runs end with the same error, or with results that are related. -/
inductive EndAlike {ε α β : Type} (R : α → β → Prop) : Except ε α → Except ε β → Prop where
  | ok {a : α} {b : β} (h : R a b) : EndAlike R (.ok a) (.ok b)
  | error (e : ε) : EndAlike R (.error e) (.error e)

namespace EndAlike

variable {ε α α' β β' : Type} {R : α → α' → Prop} {S : β → β' → Prop} {x : Except ε α}
  {x' : Except ε α'}

theorem refl (x : Except ε α) : EndAlike Eq x x := by
  cases x with
  | ok a => exact .ok rfl
  | error e => exact .error e

theorem eq {y : Except ε α} (h : EndAlike Eq x y) : x = y := by
  cases h with
  | ok h => exact congrArg Except.ok h
  | error e => rfl

theorem mono {T : α → α' → Prop} (h : EndAlike R x x') (hRT : ∀ a a', R a a' → T a a') :
    EndAlike T x x' := by
  cases h with
  | ok h => exact .ok (hRT _ _ h)
  | error e => exact .error e

/-- Runs that go on alike end alike. -/
theorem bind {f : α → Except ε β} {f' : α' → Except ε β'} (hx : EndAlike R x x')
    (hf : ∀ a a', R a a' → EndAlike S (f a) (f' a')) : EndAlike S (x >>= f) (x' >>= f') := by
  cases hx with
  | ok h => exact hf _ _ h
  | error e => exact .error e

theorem map {f : α → β} {f' : α' → β'} (hx : EndAlike R x x')
    (hf : ∀ a a', R a a' → S (f a) (f' a')) : EndAlike S (x.map f) (x'.map f') := by
  cases hx with
  | ok h => exact .ok (hf _ _ h)
  | error e => exact .error e

theorem mapError {δ : Type} {f : ε → δ} (hx : EndAlike R x x') :
    EndAlike R (x.mapError f) (x'.mapError f) := by
  cases hx with
  | ok h => exact .ok h
  | error e => exact .error (f e)

end EndAlike

namespace Fields

variable {α β : Type} {layout layout' : Layout} {place : Nat}

/-- Fields and the fields after them are read alike if both are. -/
theorem alike_seq {R : α → α → Prop} {S : β → β → Prop} {front : Fields (α → β)}
    {back : Fields α}
    (hfront : EndAlike (fun f f' => ∀ a a', R a a' → S (f a) (f' a')) (front.read layout place)
      (front.read layout' place))
    (hback : EndAlike R (back.read layout (place + front.width))
      (back.read layout' (place + front.width))) :
    EndAlike S ((front <*> back).read layout place) ((front <*> back).read layout' place) := by
  show EndAlike S ((front.seq back).read layout place) ((front.seq back).read layout' place)
  unfold seq
  dsimp only
  generalize front.read layout place = x, front.read layout' place = x' at hfront ⊢
  generalize back.read layout _ = y, back.read layout' _ = y' at hback ⊢
  -- a fault of either part is one on both sides
  cases hfront with
  | ok hf =>
    cases hback with
    | ok ha => exact .ok (hf _ _ ha)
    | error faults => exact .error faults
  | error faults =>
    cases hback with
    | ok _ => exact .error faults
    | error faults' => exact .error (faults ++ faults')

/-- A field that stands on both sides has the same reading. -/
theorem alike_field {name : String} {decodeField : Option Json → Except (Option DecodeError) α}
    (h : layout.find? name place = layout'.find? name place) :
    EndAlike Eq ((field name decodeField).read layout place)
      ((field name decodeField).read layout' place) := by
  unfold field
  dsimp only
  rw [h]
  exact .refl _

/-- The same with one field that stands on both sides: it gives both results the same. -/
theorem alike_seq_field {S : β → β → Prop} {front : Fields (α → β)} {name : String}
    {decodeField : Option Json → Except (Option DecodeError) α}
    (hfront : EndAlike (fun f f' => ∀ a, S (f a) (f' a)) (front.read layout place)
      (front.read layout' place))
    (h : layout.find? name (place + front.width) = layout'.find? name (place + front.width)) :
    EndAlike S ((front <*> field name decodeField).read layout place)
      ((front <*> field name decodeField).read layout' place) := by
  refine alike_seq (hfront.mono ?_) (alike_field h)
  rintro f f' hf a _ rfl
  exact hf a

theorem alike_map {f : α → β} {R : α → α → Prop} {S : β → β → Prop} {fields : Fields α}
    (h : EndAlike R (fields.read layout place) (fields.read layout' place))
    (hf : ∀ a a', R a a' → S (f a) (f a')) :
    EndAlike S ((f <$> fields).read layout place) ((f <$> fields).read layout' place) :=
  h.map hf

theorem alike_afterOthers {R : α → α → Prop} {fields : Fields α}
    (h : EndAlike R (fields.read layout place) (fields.read layout' place)) :
    EndAlike R (fields.afterOthers.read layout place) (fields.afterOthers.read layout' place) := by
  unfold afterOthers
  dsimp only
  generalize fields.read layout place = x, fields.read layout' place = x' at h ⊢
  cases h with
  | ok h => exact .ok h
  | error faults => exact .error _

end Fields

end OpenstackAdmission
