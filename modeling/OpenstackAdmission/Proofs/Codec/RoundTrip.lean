import OpenstackAdmission.Manifest.TypeMeta

/-!
# Values that are read back

A value is read back if what is written for it is read as this value, and is not null, which a field that may be
left out would take for nothing. Most types have this for all of their values (`LawfulCodec`).

> `ReadsBack.of_record`: a record is read back if its fields are read in the order in which they are written, all
under names of their own, and what each of them holds is read back.

That readers and writers agree in names and order is found by instances of `Fields.ReadsOff`, one for each kind of
field.
-/

namespace OpenstackAdmission

/-- A value is read as itself from what is written for it. -/
class ReadsBack {α : Type} [Codec α] (a : α) : Prop where
  decode_encode : decode (encode a) = .ok a
  isNull_encode : (encode a).isNull = false

/-- All values of a type are read back. -/
class LawfulCodec (α : Type) [Codec α] : Prop where
  readsBack : ∀ a : α, ReadsBack a

instance {α : Type} [Codec α] [LawfulCodec α] (a : α) : ReadsBack a := LawfulCodec.readsBack a

/-- A value is read back if there is one. -/
class MayReadBack {α : Type} [Codec α] (a : Option α) : Prop where
  readsBack : ∀ value, a = some value → ReadsBack value

instance {α : Type} [Codec α] [LawfulCodec α] (a : Option α) : MayReadBack a :=
  ⟨fun value _ => LawfulCodec.readsBack value⟩

/-! ## Texts, numbers, lists and dictionaries -/

instance : LawfulCodec String := ⟨fun _ => ⟨rfl, rfl⟩⟩

instance : LawfulCodec Bool := ⟨fun _ => ⟨rfl, rfl⟩⟩

theorem decodeWhole_of_le {low high n : Int} (hlow : low ≤ n) (hhigh : n ≤ high)
    (expected : String) : decodeWhole low high expected (.num (.whole n)) = .ok n :=
  if_pos (Bool.and_eq_true_iff.mpr ⟨decide_eq_true hlow, decide_eq_true hhigh⟩)

instance : LawfulCodec UInt32 where
  readsBack n := by
    refine ⟨?_, rfl⟩
    have hhigh : (n.toNat : Int) ≤ Nat.pow 2 32 - 1 := by
      have hpow : Nat.pow 2 32 = 4294967296 := rfl
      have hlt := n.toNat_lt
      omega
    show (decodeWhole 0 (Nat.pow 2 32 - 1) "u32" (.num (.whole n.toNat))).map _ = _
    rw [decodeWhole_of_le (Int.natCast_nonneg _) hhigh]
    exact congrArg Except.ok UInt32.ofNat_toNat

section Containers

variable {α : Type} [Codec α]

/-- Items are read one by one, so a list of items that are read back is read back. -/
theorem decodeItems_map_encode {items : List α} (h : ∀ a ∈ items, ReadsBack a) :
    decodeItems (items.map encode) = .ok items := by
  induction items with
  | nil => rfl
  | cons a rest ih =>
    have ha := (h a (.head _)).decode_encode
    have hrest := ih fun b hb => h b (.tail _ hb)
    rw [List.map_cons, decodeItems, ha, hrest]
    rfl

theorem ReadsBack.list {items : List α} (h : ∀ a ∈ items, ReadsBack a) : ReadsBack items :=
  ⟨decodeItems_map_encode h, rfl⟩

instance [LawfulCodec α] : LawfulCodec (List α) :=
  ⟨fun _ => .list fun a _ => LawfulCodec.readsBack a⟩

/-- Entries are read in their order under the names that they were written with. -/
theorem decodeEntries_map_encode [LawfulCodec α] (entries : List (String × α)) :
    decodeEntries (entries.map fun e => (e.1, encode e.2)) = .ok entries := by
  induction entries with
  | nil => rfl
  | cons e rest ih =>
    have he := (LawfulCodec.readsBack e.2).decode_encode
    rw [List.map_cons, decodeEntries, he, ih]
    rfl

instance [LawfulCodec α] : LawfulCodec (Dict α) where
  readsBack d := by
    refine ⟨?_, rfl⟩
    show (decodeEntries (d.entries.map fun e => (e.1, encode e.2))).map Dict.ofList = .ok d
    rw [decodeEntries_map_encode]
    exact congrArg Except.ok (Dict.ofList_entries d)

end Containers

/-! ## Records -/

namespace Fields

/-- What is written for a value begins with the fields that are read for it, in the same order, and is followed by
some rest. -/
class ReadsOff {α : Type} (fields : Fields α) (written : List (String × Option Json))
    (rest : outParam (List (String × Option Json))) (names : outParam (List String))
    (a : outParam α) : Prop where
  exists_own : ∃ own : List (String × Option Json), written = own ++ rest ∧
    own.map Prod.fst = names ∧
    ∀ entries place, (∀ e ∈ own, Entries.find? e.1 entries = e.2) →
      fields.read (.named entries) place = .ok a

variable {α β : Type} {rest mid written : List (String × Option Json)} {names names' : List String}

instance {f : α → β} {fields : Fields α} {a : α} [h : ReadsOff fields written rest names a] :
    ReadsOff (f <$> fields) written rest names (f a) where
  exists_own := by
    obtain ⟨own, hwritten, hnames, hread⟩ := h.exists_own
    refine ⟨own, hwritten, hnames, ?_⟩
    intro entries place hfind
    show (fields.read (.named entries) place).map f = _
    rw [hread entries place hfind]
    rfl

instance {front : Fields (α → β)} {back : Fields α} {f : α → β} {a : α}
    [hfront : ReadsOff front written mid names f] [hback : ReadsOff back mid rest names' a] :
    ReadsOff (front <*> back) written rest (names ++ names') (f a) where
  exists_own := by
    obtain ⟨own, rfl, rfl, hread⟩ := hfront.exists_own
    obtain ⟨own', rfl, rfl, hread'⟩ := hback.exists_own
    refine ⟨own ++ own', (List.append_assoc ..).symm, List.map_append, ?_⟩
    intro entries place hfind
    have hf := hread entries place fun e he => hfind e (List.mem_append_left _ he)
    have ha := hread' entries (place + front.width) fun e he => hfind e (List.mem_append_right _ he)
    show (front.seq back).read (.named entries) place = _
    unfold seq
    simp only [hf, ha]

instance {fields : Fields α} {a : α} [h : ReadsOff fields written rest names a] :
    ReadsOff (afterOthers fields) written rest names a where
  exists_own := by
    obtain ⟨own, hwritten, hnames, hread⟩ := h.exists_own
    refine ⟨own, hwritten, hnames, ?_⟩
    intro entries place hfind
    unfold afterOthers
    simp only [hread entries place hfind]

/-- One field is read off if its reader makes the value of what is written. -/
theorem readsOff_field {name : String} {value : Option Json} {a : α}
    {decodeField : Option Json → Except (Option DecodeError) α} (h : decodeField value = .ok a) :
    ReadsOff (field name decodeField) ((name, value) :: rest) rest [name] a where
  exists_own := by
    refine ⟨[(name, value)], rfl, rfl, ?_⟩
    intro entries place hfind
    have hvalue : Entries.find? name entries = value := hfind _ (.head _)
    unfold field Layout.find?
    simp only [hvalue, h]

variable [Codec α]

/-- A field that is there is read like a value on its own, unless the value is null, which stands for a
missing field. -/
theorem decodeFieldValue_encode (a : α) [h : ReadsBack a] :
    decodeFieldValue (encode a) = .ok a := by
  unfold decodeFieldValue
  rw [h.decode_encode]

instance {name : String} {a : α} [ReadsBack a] :
    ReadsOff (required name) (Codec.field name a :: rest) rest [name] a :=
  readsOff_field (decodeFieldValue_encode a)

instance {name : String} {a default : α} [ReadsBack a] :
    ReadsOff (defaulted name default) (Codec.field name a :: rest) rest [name] a :=
  readsOff_field (decodeFieldValue_encode a)

instance {name : String} {a : Option α} [h : MayReadBack a] :
    ReadsOff (optional name) (Codec.field? name a :: rest) rest [name] a := by
  apply readsOff_field
  cases a with
  | none => rfl
  | some a =>
    have ha := h.readsBack a rfl
    show (if (encode a).isNull then _ else _) = _
    rw [ha.isNull_encode]
    exact congrArg (Except.map some) (decodeFieldValue_encode a)

instance {m : TypeMeta} : ReadsOff TypeMeta.fields (m.entries ++ rest) rest ["apiVersion", "kind"] m :=
  inferInstanceAs (ReadsOff (TypeMeta.mk <$> optional "apiVersion" <*> optional "kind")
    (Codec.field? "apiVersion" m.apiVersion :: Codec.field? "kind" m.kind :: rest) rest _ _)

end Fields

/-- Under names of their own, all entries are found. -/
theorem Entries.find?_of_mem {β : Type} {entries : List (String × β)} {e : String × β}
    (hdistinct : (entries.map Prod.fst).Nodup) (he : e ∈ entries) :
    find? e.1 entries = some e.2 := by
  induction entries with
  | nil => cases he
  | cons first rest ih =>
    obtain ⟨k, v⟩ := first
    rw [List.map_cons, List.nodup_cons] at hdistinct
    rw [find?_cons]
    cases he with
    | head => exact if_pos rfl
    | tail _ he =>
      have hne : e.1 ≠ k := by
        intro heq
        exact hdistinct.1 (List.mem_map.mpr ⟨e, he, heq⟩)
      rw [if_neg hne, ih hdistinct.2 he]

/-- A record is written field by field, without those that have nothing to write. It is read back if its
names differ, as every name then finds its own field. -/
theorem Fields.read_record {α : Type} {a : α} {fields : Fields α}
    {written : List (String × Option Json)} {names : List String}
    (h : fields.ReadsOff written [] names a) (hdistinct : names.Nodup) :
    fields.read (.named (Json.fieldEntries written)) 0 = .ok a := by
  obtain ⟨own, hwritten, rfl, hread⟩ := h.exists_own
  rw [List.append_nil] at hwritten
  subst hwritten
  apply hread
  intro e he
  rw [Json.find?_fieldEntries hdistinct, Entries.find?_of_mem hdistinct he]
  rfl

/-- **A record is read back** if its fields are read in the order in which they are written. -/
theorem ReadsBack.of_record {α : Type} [Codec α] {a : α} {fields : Fields α}
    {written : List (String × Option Json)} {names : List String}
    (hencode : encode a = .record written)
    (hdecode : ∀ entries,
      decode (.obj entries) = (fields.read (.named entries) 0).mapError Codec.namedError)
    [h : fields.ReadsOff written [] names a] (hdistinct : names.Nodup := by decide) :
    ReadsBack a := by
  constructor
  · rw [hencode, Json.record, hdecode, Fields.read_record h hdistinct]
    rfl
  · rw [hencode]
    rfl

end OpenstackAdmission
