import OpenstackAdmission.Manifest.Resource
import OpenstackAdmission.Text.Utf8

/-!
# Loading manifest files

A manifest file holds documents, and each of them a resource or nothing. Files are loaded in order, and the
first that cannot be read, or the first document that holds no resource, is the fault of all. Documents
without content hold no resource but are counted. How a text falls into documents is a parameter.

The operations `load`, `load_all` and `parse` (specification, section 11.3).
-/

namespace OpenstackAdmission

/-- What a document of a manifest file holds. -/
inductive ManifestDocument where
  | empty
  | resource (resource : Resource)
  | unreadable (cause : String)

/-- Why the text of a file cannot be read. -/
inductive ReadFault where
  | notFound
  | notText
  /-- Any other fault that the system tells. -/
  | system (text : String)
  deriving DecidableEq, Repr

def ReadFault.message : ReadFault → String
  | .notFound => "No such file or directory (os error 2)"
  | .notText => "stream did not contain valid UTF-8"
  | .system text => text

/-- A file as it was found. -/
structure ManifestFile where
  path : String
  bytes : Except ReadFault (List UInt8)

inductive LoadFault where
  | unreadable (path : String) (fault : ReadFault)
  /-- A document, counted from zero, that holds no resource. -/
  | badDocument (path : String) (index : Nat) (cause : String)
  deriving DecidableEq, Repr

/-- The message and that of the cause. -/
def LoadFault.messages : LoadFault → List String
  | .unreadable path fault => ["failed to read manifest file " ++ path, fault.message]
  | .badDocument path index cause => [s!"failed to parse document {index} of " ++ path, cause]

namespace ManifestFile

/-- The text of a file. -/
def text (file : ManifestFile) : Except ReadFault String :=
  match file.bytes with
  | .error fault => .error fault
  | .ok bytes =>
    match Text.Utf8.decode bytes with
    | .ok text => .ok text
    | .error _ => .error .notText

/-- The resources of documents from a position on. -/
def resourcesFrom (path : String) (index : Nat) :
    List ManifestDocument → Except LoadFault (List Resource)
  | [] => .ok []
  | .empty :: rest => resourcesFrom path (index + 1) rest
  | .resource r :: rest => (resourcesFrom path (index + 1) rest).map (r :: ·)
  | .unreadable cause :: _ => .error (.badDocument path index cause)

/-- The resources of a file. -/
def load (documents : String → List ManifestDocument) (file : ManifestFile) :
    Except LoadFault (List Resource) :=
  match file.text with
  | .error fault => .error (.unreadable file.path fault)
  | .ok text => resourcesFrom file.path 0 (documents text)

/-- The resources of files, in order. -/
def loadAll (documents : String → List ManifestDocument) :
    List ManifestFile → Except LoadFault (List Resource)
  | [] => .ok []
  | file :: rest => do
    let resources ← file.load documents
    let others ← loadAll documents rest
    return resources ++ others

end ManifestFile

end OpenstackAdmission
