import OpenstackAdmission.Config.ProviderImage
import OpenstackAdmission.Dict.Basic
import OpenstackAdmission.Manifest.MachineImage
import OpenstackAdmission.Versioned.Basic

/-!
# Finding images

Images are found by name and versions by image and version, in all three forms that images have. An index
holds what counts: of several images with one name the first, and of the versions of all of them, which belong
together, the first with each text.

What `ImagesContext` is to the machine image matrix (specification, section 4.4).
-/

namespace OpenstackAdmission

/-- Images that have a name and a list of versions. -/
class ImageForm (ι : Type) (ν : outParam Type) where
  name : ι → String
  versions : ι → List ν
  version : ν → String

instance : ImageForm MachineImage MachineImageVersion where
  name := MachineImage.name
  versions := MachineImage.versions
  version := MachineImageVersion.version

instance : ImageForm Versioned.MachineImage Versioned.MachineImageVersion where
  name := Versioned.MachineImage.name
  versions := Versioned.MachineImage.versions
  version := Versioned.MachineImageVersion.version

instance : ImageForm ProviderImage ProviderImageVersion where
  name := ProviderImage.name
  versions := ProviderImage.versions
  version := ProviderImageVersion.version

variable {ι ν : Type} [ImageForm ι ν]

/-- What stands under the name of an image. -/
structure IndexedImage (ι ν : Type) where
  /-- The first image of the name. -/
  image : ι
  /-- The first versions of their texts, of all images of the name. -/
  versions : Dict ν

/-- Images under their names. -/
structure ImageIndex (ι ν : Type) where
  images : Dict (IndexedImage ι ν)

namespace ImageIndex

def empty : ImageIndex ι ν := ⟨.empty⟩

/-- Puts every version under its text, if there is none yet. -/
def addVersions (versions : Dict ν) (added : List ν) : Dict ν :=
  added.foldl (fun versions v => versions.insertNew (ImageForm.version (ι := ι) v) v) versions

/-- Puts an image under its name, if there is none yet, and its versions to those of the name. -/
def add (index : ImageIndex ι ν) (image : ι) : ImageIndex ι ν :=
  let indexed := (index.images.find? (ImageForm.name image)).getD ⟨image, .empty⟩
  let versions := addVersions (ι := ι) indexed.versions (ImageForm.versions image)
  ⟨index.images.insert (ImageForm.name image) ⟨indexed.image, versions⟩⟩

def ofImages (images : List ι) : ImageIndex ι ν := images.foldl add empty

def image? (index : ImageIndex ι ν) (name : String) : Option ι :=
  (index.images.find? name).map (·.image)

def version? (index : ImageIndex ι ν) (name version : String) : Option ν :=
  (index.images.find? name).bind (·.versions.find? version)

end ImageIndex

/-- The image of a name. -/
def findImage? (images : List ι) (name : String) : Option ι :=
  (ImageIndex.ofImages images).image? name

/-- The version of an image. -/
def findVersion? (images : List ι) (name version : String) : Option ν :=
  (ImageIndex.ofImages images).version? name version

end OpenstackAdmission
