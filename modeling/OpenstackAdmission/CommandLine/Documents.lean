import OpenstackAdmission.CommandLine.Loading
import OpenstackAdmission.Yaml.Value.Json
import OpenstackAdmission.Yaml.Value.Reader

/-!
# Manifests written in YAML

How the operation `parse` reads one document (specification, section 11.3).
-/

namespace OpenstackAdmission.ManifestDocument

/-- The resource of a value. -/
def resourceOf (value : Yaml.Value) : Except DecodeError Resource := do
  Resource.ofManifest (← value.toJson)

/-- What a document holds. -/
def ofYaml (document : Yaml.Document) : ManifestDocument :=
  match document.value with
  | .error e => .unreadable e.message
  | .ok value =>
    if value.isNull then .empty
    else
      match resourceOf value with
      | .ok r => .resource r
      | .error e => .unreadable e.message

/-- What the documents of a text hold. -/
def ofText (text : String) : List ManifestDocument := (Yaml.Document.ofText text).map ofYaml

end OpenstackAdmission.ManifestDocument
