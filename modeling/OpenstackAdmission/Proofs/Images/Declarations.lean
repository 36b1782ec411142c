import OpenstackAdmission.Proofs.Images.Scan

/-!
# Declared versions

A list of images declares pairs of an image and a version. `declarations` lists them in their order, each with
the name of its image: images of one name belong together, and a pair may be declared more than once.

> `findVersion?_eq_firstDeclared?`: the version found for a pair is its first declaration.

Where images change and keep their names and versions, the same is found, changed in the same way
(`findVersion?_map`).
-/

namespace OpenstackAdmission

variable {ι ν : Type} [ImageForm ι ν]

/-- The name of the image and the version of every declaration, in order. -/
def declarations (images : List ι) : List (String × ν) :=
  images.flatMap fun image =>
    (ImageForm.versions image).map fun v => (ImageForm.name image, v)

/-- The first declaration of a version of an image. -/
def firstDeclared? (images : List ι) (name version : String) : Option ν :=
  ((declarations images).find? fun d =>
    d.1 = name && ImageForm.version (ι := ι) d.2 = version).map Prod.snd

/-- The version of the image is declared. -/
def Declares (images : List ι) (name version : String) : Prop :=
  ∃ d ∈ declarations images, d.1 = name ∧ ImageForm.version (ι := ι) d.2 = version

variable {images : List ι} {name version : String} {v : ν}

theorem not_declares_nil : ¬ Declares ([] : List ι) name version := by
  rintro ⟨d, hd, -⟩
  exact List.not_mem_nil hd

/-- A declaration is a version of some image, under the name of the image. -/
theorem mem_declarations {d : String × ν} :
    d ∈ declarations images ↔
      ∃ image ∈ images, ∃ v ∈ ImageForm.versions image, (ImageForm.name image, v) = d := by
  simp only [declarations, List.mem_flatMap, List.mem_map]

/-- A declaration stands at an index of an image and an index of its versions. -/
theorem mem_declarations_iff_getElem? {d : String × ν} :
    d ∈ declarations images ↔
      ∃ (i : Nat) (image : ι), images[i]? = some image ∧
        ∃ (j : Nat) (v : ν), (ImageForm.versions image)[j]? = some v ∧
          (ImageForm.name image, v) = d := by
  rw [mem_declarations]
  constructor
  · rintro ⟨image, hi, v, hv, rfl⟩
    obtain ⟨i, hi⟩ := List.mem_iff_getElem?.mp hi
    obtain ⟨j, hj⟩ := List.mem_iff_getElem?.mp hv
    exact ⟨i, image, hi, j, v, hj, rfl⟩
  · rintro ⟨i, image, hi, j, v, hj, rfl⟩
    exact ⟨image, List.mem_of_getElem? hi, v, List.mem_of_getElem? hj, rfl⟩

/-- The versions of all images of a name are those declared under it. -/
theorem versionsNamed_eq (images : List ι) (name : String) :
    versionsNamed images name =
      ((declarations images).filter fun d => d.1 = name).map Prod.snd := by
  induction images with
  | nil => rfl
  | cons image images ih =>
    have hcons : declarations (image :: images) =
        (ImageForm.versions image).map (fun v => (ImageForm.name image, v))
          ++ declarations images := rfl
    rw [hcons, List.filter_append, List.map_append, ← ih]
    unfold versionsNamed
    -- the filter keeps all versions of an image of the name and none of another
    by_cases h : ImageForm.name image = name
    · have hown : ((ImageForm.versions image).map fun v => (ImageForm.name image, v)).filter
          (fun d => d.1 = name) = (ImageForm.versions image).map fun v => (ImageForm.name image, v) :=
        List.filter_eq_self.mpr (by simp [h])
      rw [hown, List.filter_cons_of_pos (by simpa using h), List.flatMap_cons, List.map_map]
      simp [Function.comp_def]
    · have hown : ((ImageForm.versions image).map fun v => (ImageForm.name image, v)).filter
          (fun d => d.1 = name) = [] :=
        List.filter_eq_nil_iff.mpr (by simp [h])
      rw [hown, List.filter_cons_of_neg (by simpa using h)]
      rfl

/-- **Of several declarations of a pair the first counts.** -/
theorem findVersion?_eq_firstDeclared? (images : List ι) (name version : String) :
    findVersion? images name version = firstDeclared? images name version := by
  unfold firstDeclared?
  rw [findVersion?_eq_find?, versionsNamed_eq, List.find?_map, List.find?_filter]
  simp only [Function.comp_apply, decide_eq_true_eq, Bool.decide_and]

/-- There is a first declaration unless there is none at all. -/
theorem firstDeclared?_eq_none_iff :
    firstDeclared? images name version = none ↔ ¬ Declares images name version := by
  unfold firstDeclared? Declares
  rw [Option.map_eq_none_iff, List.find?_eq_none]
  simp only [Bool.and_eq_true, decide_eq_true_eq]
  constructor
  · rintro hnone ⟨d, hd, hdeclares⟩
    exact hnone d hd hdeclares
  · intro hnone d hd hdeclares
    exact hnone ⟨d, hd, hdeclares⟩

theorem exists_firstDeclared? (h : Declares images name version) :
    ∃ v, firstDeclared? images name version = some v :=
  Option.ne_none_iff_exists'.mp fun hnone => firstDeclared?_eq_none_iff.mp hnone h

/-- The first declaration of a pair is a declaration of it. -/
theorem of_firstDeclared? (h : firstDeclared? images name version = some v) :
    (name, v) ∈ declarations images ∧ ImageForm.version (ι := ι) v = version := by
  unfold firstDeclared? at h
  obtain ⟨d, hd, rfl⟩ := Option.map_eq_some_iff.mp h
  have hprops := List.find?_some hd
  simp only [Bool.and_eq_true, decide_eq_true_eq] at hprops
  obtain ⟨rfl, hversion⟩ := hprops
  exact ⟨List.mem_of_find?_eq_some hd, hversion⟩

theorem declares_of_firstDeclared? (h : firstDeclared? images name version = some v) :
    Declares images name version :=
  ⟨(name, v), (of_firstDeclared? h).1, rfl, (of_firstDeclared? h).2⟩

/-- Every declaration in the list declares its own pair. -/
theorem declares_of_mem {d : String × ν} (h : d ∈ declarations images) :
    Declares images d.1 (ImageForm.version (ι := ι) d.2) :=
  ⟨d, h, rfl, rfl⟩

/-- Where a version is declared, there is an image of the name. -/
theorem exists_image_of_declares (h : Declares images name version) :
    ∃ image ∈ images, ImageForm.name image = name := by
  obtain ⟨d, hd, rfl, -⟩ := h
  obtain ⟨image, himage, v, -, rfl⟩ := mem_declarations.mp hd
  exact ⟨image, himage, rfl⟩

/-- Two lists that compare every declaration of a version with the first one of the other side have the same
over all declarations of it. -/
theorem exists_declared_iff {ι' ν' : Type} [ImageForm ι' ν'] {images : List ι} {others : List ι'}
    (p : ν → Prop) (q : ν' → Prop)
    (hto : ∀ d ∈ declarations images, d.1 = name → ImageForm.version (ι := ι) d.2 = version →
      p d.2 → ∃ first, firstDeclared? others name version = some first ∧ q first)
    (hback : ∀ d ∈ declarations others, d.1 = name → ImageForm.version (ι := ι') d.2 = version →
      q d.2 → ∃ first, firstDeclared? images name version = some first ∧ p first) :
    (∃ d ∈ declarations images, d.1 = name ∧ ImageForm.version (ι := ι) d.2 = version ∧ p d.2) ↔
      ∃ d ∈ declarations others, d.1 = name ∧ ImageForm.version (ι := ι') d.2 = version ∧
        q d.2 := by
  constructor
  · intro hdeclared
    obtain ⟨d, hd, hname, hversion, hp⟩ := hdeclared
    -- the first declaration of the other side is a declaration there
    obtain ⟨first, hfirst, hq⟩ := hto d hd hname hversion hp
    obtain ⟨hmem, hfound⟩ := of_firstDeclared? hfirst
    exact ⟨(name, first), hmem, rfl, hfound, hq⟩
  · intro hdeclared
    obtain ⟨d, hd, hname, hversion, hq⟩ := hdeclared
    obtain ⟨first, hfirst, hp⟩ := hback d hd hname hversion hq
    obtain ⟨hmem, hfound⟩ := of_firstDeclared? hfirst
    exact ⟨(name, first), hmem, rfl, hfound, hp⟩

/-! ## The place of the first declaration -/

/-- A version of an image is declared at an index of the images and an index of the versions there, and nowhere
before. -/
structure FirstDeclaredAt (images : List ι) (name version : String) (v : ν) (i j : Nat) : Prop where
  declared : ∃ image, images[i]? = some image ∧ ImageForm.name image = name ∧
    (ImageForm.versions image)[j]? = some v ∧ ImageForm.version (ι := ι) v = version ∧
    ∀ earlier ∈ (ImageForm.versions image).take j, ImageForm.version (ι := ι) earlier ≠ version
  fresh : ¬ Declares (images.take i) name version

section Place

variable {image : ι}

theorem declarations_cons (image : ι) (images : List ι) :
    declarations (image :: images) = declarations [image] ++ declarations images := by
  unfold declarations
  rw [List.flatMap_cons, List.flatMap_singleton]

theorem declares_cons_iff :
    Declares (image :: images) name version ↔
      Declares [image] name version ∨ Declares images name version := by
  unfold Declares
  rw [declarations_cons]
  simp only [List.mem_append, or_and_right, exists_or]

/-- Images in front are looked through first. Of a pair that they do not declare, the first declaration is
behind them. -/
theorem firstDeclared?_cons (image : ι) (images : List ι) (name version : String) :
    firstDeclared? (image :: images) name version =
      (firstDeclared? [image] name version).or (firstDeclared? images name version) := by
  unfold firstDeclared?
  rw [declarations_cons, List.find?_append, Option.map_or]

/-- Within one image, the first declaration of a version has an index before which there is none. -/
theorem exists_index_of_firstDeclared? (h : firstDeclared? [image] name version = some v) :
    ImageForm.name image = name ∧ ∃ j : Nat, (ImageForm.versions image)[j]? = some v ∧
      ImageForm.version (ι := ι) v = version ∧
      ∀ earlier ∈ (ImageForm.versions image).take j, ImageForm.version (ι := ι) earlier ≠ version := by
  unfold firstDeclared? declarations at h
  rw [List.flatMap_singleton, List.find?_map] at h
  simp only [Option.map_map, Option.map_eq_some_iff] at h
  obtain ⟨first, hfirst, rfl⟩ := h
  obtain ⟨hpair, before, after, hsplit, hbefore⟩ := List.find?_eq_some_iff_append.mp hfirst
  simp only [Function.comp_apply, Bool.and_eq_true, decide_eq_true_eq] at hpair
  obtain ⟨rfl, hversion⟩ := hpair
  refine ⟨rfl, before.length, ?_, hversion, ?_⟩
  · rw [hsplit, List.getElem?_append_right (Nat.le_refl _), Nat.sub_self]
    rfl
  · rw [hsplit, List.take_left]
    intro earlier hearlier
    simpa using hbefore earlier hearlier

/-- The first declaration of a pair has a place. The induction is on the images: the first of them declares the
pair, or the place is among the others. -/
theorem exists_firstDeclaredAt (h : firstDeclared? images name version = some v) :
    ∃ i j, FirstDeclaredAt images name version v i j := by
  induction images with
  | nil => cases h
  | cons image images ih =>
    rw [firstDeclared?_cons] at h
    cases hhere : firstDeclared? [image] name version with
    | some first =>
      rw [hhere, Option.some_or] at h
      obtain rfl := Option.some.inj h
      obtain ⟨hname, j, hj, hversion, hearlier⟩ := exists_index_of_firstDeclared? hhere
      exact ⟨0, j, ⟨image, rfl, hname, hj, hversion, hearlier⟩, not_declares_nil⟩
    | none =>
      rw [hhere, Option.none_or] at h
      obtain ⟨i, j, hdeclared, hfresh⟩ := ih h
      refine ⟨i + 1, j, hdeclared, ?_⟩
      rw [List.take_succ_cons, declares_cons_iff]
      exact not_or.mpr ⟨firstDeclared?_eq_none_iff.mp hhere, hfresh⟩

end Place

/-! ## Images in which the versions change -/

section Images

variable (onImage : ι → ι) (onVersion : String → ν → ν)
  (hname : ∀ image, ImageForm.name (onImage image) = ImageForm.name image)
  (hversions : ∀ image, ImageForm.versions (onImage image) =
    (ImageForm.versions image).map (onVersion (ImageForm.name image)))
  (hversion : ∀ name v, ImageForm.version (ι := ι) (onVersion name v) = ImageForm.version (ι := ι) v)

include hname

theorem findImage?_map (images : List ι) (name : String) :
    findImage? (images.map onImage) name = (findImage? images name).map onImage := by
  rw [findImage?_eq_find?, findImage?_eq_find?, List.find?_map]
  simp only [Function.comp_def, hname]

include hversions

theorem declarations_map (images : List ι) :
    declarations (images.map onImage) =
      (declarations images).map fun d => (d.1, onVersion d.1 d.2) := by
  have himage (image : ι) :
      (ImageForm.versions (onImage image)).map (fun v => (ImageForm.name (onImage image), v)) =
        ((ImageForm.versions image).map fun v => (ImageForm.name image, v)).map fun d =>
          (d.1, onVersion d.1 d.2) := by
    rw [hname, hversions, List.map_map, List.map_map]
    rfl
  unfold declarations
  rw [List.flatMap_map, List.map_flatMap]
  simp only [himage]

include hversion

/-- Where images keep their names and versions, changing them and finding a version may change places. -/
theorem findVersion?_map (images : List ι) (name version : String) :
    findVersion? (images.map onImage) name version =
      (findVersion? images name version).map (onVersion name) := by
  rw [findVersion?_eq_firstDeclared?, findVersion?_eq_firstDeclared?]
  unfold firstDeclared?
  rw [declarations_map onImage onVersion hname hversions, List.find?_map]
  simp only [Function.comp_def, hversion]
  cases hfound : (declarations images).find? fun d =>
      d.1 = name && ImageForm.version (ι := ι) d.2 = version with
  | none => rfl
  | some d =>
    have hprops := List.find?_some hfound
    simp only [Bool.and_eq_true, decide_eq_true_eq] at hprops
    obtain ⟨rfl, -⟩ := hprops
    rfl

end Images

end OpenstackAdmission
