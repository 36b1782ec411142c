import OpenstackAdmission.Images.Index

/-!
# The index of images

Images and versions are looked up in an index, which is built in one pass over the images and their versions. What
counts there is what came first.

> `agreesWithScan_ofImages`: a lookup finds what a scan of the list would. An image is the first one of its name, a
version the first one of its text among the versions of all images of the name, in the order of declaration; nothing is
found exactly where the list has nothing of the kind.

The pass carries the agreement with what it has seen (`AgreesSoFar`): an image that is added is seen by its own name
only, where it comes behind all that is there, itself (`image?_add`) and each of its versions (`version?_add`). As the
versions of a name are merged and its images are not, a version may be found that the image found does not have.
-/

namespace OpenstackAdmission

variable {ι ν : Type} [ImageForm ι ν]

/-- The versions of all images of a name. -/
def versionsNamed (images : List ι) (name : String) : List ν :=
  (images.filter (ImageForm.name · = name)).flatMap ImageForm.versions

namespace ImageIndex

variable {index : ImageIndex ι ν} {image : ι} {images seen : List ι} {name version : String}

/-! ## One image -/

/-- The inner pass: versions that are added come behind those that are there. -/
theorem find?_addVersions (versions : Dict ν) (added : List ν) (version : String) :
    (addVersions (ι := ι) versions added).find? version =
      (versions.find? version).or (added.find? (ImageForm.version (ι := ι) · = version)) := by
  induction added generalizing versions with
  | nil => exact Option.or_none.symm
  | cons v added ih =>
    have hstep : addVersions (ι := ι) versions (v :: added) =
        addVersions (ι := ι) (versions.insertNew (ImageForm.version (ι := ι) v) v) added := rfl
    rw [hstep, ih, Dict.find?_insertNew, Option.or_assoc, List.find?_cons]
    by_cases heq : ImageForm.version (ι := ι) v = version
    · simp [heq]
    · simp [heq, Ne.symm heq]

/-- Adding an image changes what is found under its name, and nothing else. The first image of a name stays.
-/
theorem find?_add (index : ImageIndex ι ν) (image : ι) (name : String) :
    (index.add image).images.find? name =
      if name = ImageForm.name image then
        let indexed := (index.images.find? name).getD ⟨image, .empty⟩
        some ⟨indexed.image, addVersions (ι := ι) indexed.versions (ImageForm.versions image)⟩
      else index.images.find? name := by
  unfold add
  rw [Dict.find?_insert]
  by_cases heq : name = ImageForm.name image
  · rw [if_pos heq, if_pos heq, heq]
  · rw [if_neg heq, if_neg heq]

/-- An image that is added comes behind those of its name. -/
theorem image?_add (index : ImageIndex ι ν) (image : ι) (name : String) :
    (index.add image).image? name =
      (index.image? name).or (if ImageForm.name image = name then some image else none) := by
  unfold image?
  rw [find?_add]
  by_cases heq : ImageForm.name image = name
  · rw [if_pos heq.symm, if_pos heq]
    cases index.images.find? name <;> rfl
  · rw [if_neg (Ne.symm heq), if_neg heq, Option.or_none]

/-- The versions of an image that is added come behind those of its name. -/
theorem version?_add (index : ImageIndex ι ν) (image : ι) (name version : String) :
    (index.add image).version? name version =
      (index.version? name version).or
        (if ImageForm.name image = name then
          (ImageForm.versions image).find? (ImageForm.version (ι := ι) · = version)
        else none) := by
  unfold version?
  rw [find?_add]
  by_cases heq : ImageForm.name image = name
  · rw [if_pos heq.symm, if_pos heq]
    cases index.images.find? name with
    | none => exact find?_addVersions .empty _ version
    | some indexed => exact find?_addVersions indexed.versions _ version
  · rw [if_neg (Ne.symm heq), if_neg heq, Option.or_none]

/-! ## The pass -/

/-- Lookups find what a scan of the images that have been seen would find. -/
structure AgreesSoFar (index : ImageIndex ι ν) (seen : List ι) : Prop where
  image : ∀ name, index.image? name = seen.find? (ImageForm.name · = name)
  version : ∀ name version, index.version? name version =
    (versionsNamed seen name).find? (ImageForm.version (ι := ι) · = version)

theorem agreesSoFar_empty : AgreesSoFar (empty : ImageIndex ι ν) [] :=
  ⟨fun _ => rfl, fun _ _ => rfl⟩

theorem versionsNamed_append (images others : List ι) (name : String) :
    versionsNamed (images ++ others) name = versionsNamed images name ++ versionsNamed others name := by
  unfold versionsNamed
  rw [List.filter_append, List.flatMap_append]

theorem versionsNamed_singleton (image : ι) (name : String) :
    versionsNamed [image] name =
      if ImageForm.name image = name then ImageForm.versions image else [] := by
  unfold versionsNamed
  by_cases heq : ImageForm.name image = name <;> simp [heq]

/-- One more image is seen. -/
theorem AgreesSoFar.add (h : AgreesSoFar index seen) (image : ι) :
    AgreesSoFar (index.add image) (seen ++ [image]) := by
  constructor
  case image =>
    intro name
    rw [image?_add, h.image, List.find?_append, List.find?_singleton]
    simp only [decide_eq_true_eq]
  case version =>
    intro name version
    rw [version?_add, h.version, versionsNamed_append, List.find?_append, versionsNamed_singleton]
    by_cases heq : ImageForm.name image = name
    · rw [if_pos heq, if_pos heq]
    · rw [if_neg heq, if_neg heq, List.find?_nil]

/-- The outer pass, by induction on the images that are still to be seen. -/
theorem AgreesSoFar.foldl (h : AgreesSoFar index seen) (images : List ι) :
    AgreesSoFar (images.foldl ImageIndex.add index) (seen ++ images) := by
  induction images generalizing index seen with
  | nil =>
    rw [List.append_nil]
    exact h
  | cons image images ih =>
    have hrest := ih (h.add image)
    rw [List.append_assoc] at hrest
    exact hrest

/-- The empty index agrees with a scan of no images, and every image that is added keeps up the agreement.
-/
theorem agreesSoFar_ofImages (images : List ι) : AgreesSoFar (ofImages images) images :=
  agreesSoFar_empty.foldl images

end ImageIndex

/-! ## Lookups in lists -/

/-- An image is found in the index if a scan of the list finds it, and it is the same one. -/
theorem findImage?_eq_find? (images : List ι) (name : String) :
    findImage? images name = images.find? (ImageForm.name · = name) :=
  (ImageIndex.agreesSoFar_ofImages images).image name

/-- A version is found in the index as in a scan of all versions under the name, image by image. -/
theorem findVersion?_eq_find? (images : List ι) (name version : String) :
    findVersion? images name version =
      (versionsNamed images name).find? (ImageForm.version (ι := ι) · = version) :=
  (ImageIndex.agreesSoFar_ofImages images).version name version

theorem findImage?_eq_none_iff {images : List ι} {name : String} :
    findImage? images name = none ↔ ∀ image ∈ images, ImageForm.name image ≠ name := by
  rw [findImage?_eq_find?, List.find?_eq_none]
  simp only [decide_eq_true_eq, ne_eq]

theorem findVersion?_eq_none_iff {images : List ι} {name version : String} :
    findVersion? images name version = none ↔
      ∀ image ∈ images, ImageForm.name image = name →
        ∀ v ∈ ImageForm.versions image, ImageForm.version (ι := ι) v ≠ version := by
  rw [findVersion?_eq_find?, List.find?_eq_none]
  unfold versionsNamed
  simp only [List.mem_flatMap, List.mem_filter, decide_eq_true_eq]
  constructor
  · intro hnone image himage hname v hv
    exact hnone v ⟨image, ⟨himage, hname⟩, hv⟩
  · rintro hnone v ⟨image, ⟨himage, hname⟩, hv⟩
    exact hnone image himage hname v hv

namespace ImageIndex

/-- The index answers as a scan of the images does. -/
structure AgreesWithScan (index : ImageIndex ι ν) (images : List ι) : Prop
    extends AgreesSoFar index images where
  image_eq_none_iff : ∀ name, index.image? name = none ↔
    ∀ image ∈ images, ImageForm.name image ≠ name
  version_eq_none_iff : ∀ name version, index.version? name version = none ↔
    ∀ image ∈ images, ImageForm.name image = name →
      ∀ v ∈ ImageForm.versions image, ImageForm.version (ι := ι) v ≠ version

/-- **The index agrees with a scan of the list that it was built from.** -/
theorem agreesWithScan_ofImages (images : List ι) : AgreesWithScan (ofImages images) images := by
  constructor
  case toAgreesSoFar => exact agreesSoFar_ofImages images
  case image_eq_none_iff => exact fun name => findImage?_eq_none_iff
  case version_eq_none_iff => exact fun name version => findVersion?_eq_none_iff

/-- A version that the image found for its name does not have. -/
example :
    let older : MachineImageVersion := ⟨"1.0.0", none, [], []⟩
    let newer : MachineImageVersion := ⟨"2.0.0", none, [], []⟩
    let index := ofImages [MachineImage.mk "suse" [], ⟨"ubuntu", [older]⟩, ⟨"ubuntu", [newer, older]⟩]
    index.image? "ubuntu" = some ⟨"ubuntu", [older]⟩ ∧ index.version? "ubuntu" "2.0.0" = some newer ∧
      index.version? "suse" "2.0.0" = none := by decide

end ImageIndex

end OpenstackAdmission
