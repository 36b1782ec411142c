import OpenstackAdmission.Codec.Error
import OpenstackAdmission.Manifest.Resource
import OpenstackAdmission.Report.ErrorChain
import OpenstackAdmission.Report.FieldError

/-!
# Why a resource is not admitted

What `Error` is to the admission dispatcher, with its messages (specification, sections 7 and 11.1).
-/

namespace OpenstackAdmission

inductive AdmissionError where
  /-- A payload of an object does not decode. -/
  | badPayload (field object : String) (cause : DecodeError)
  | profileNotFound (kind : ResourceKind) (name : String)
  /-- A cloud profile has no provider configuration. -/
  | profileConfigMissing (name : String)
  | bindingNotFound (kind : ResourceKind) (space name : String)
  | secretNotFound (space name : String)
  /-- A secret that the resource refers to holds no credentials. -/
  | invalidSecret (space name : String) (errors : List FieldError)
  /-- The resource replaces one of another kind. -/
  | kindMismatch (new old : ResourceKind)
  | invalid (kind : ResourceKind) (object : String) (errors : List FieldError)

namespace AdmissionError

def message : AdmissionError → String
  | .badPayload field object _ => s!"failed to decode {field} of {object}"
  | .profileNotFound kind name => kind.name ++ " " ++ Text.quoted name ++ " not found"
  | .profileConfigMissing name =>
    "CloudProfile " ++ Text.quoted name ++ " has no providerConfig"
  | .bindingNotFound kind space name => s!"{kind.name} {space}/{name} not found"
  | .secretNotFound space name => s!"secret {space}/{name} not found"
  | .invalidSecret space name errors =>
    s!"referenced secret {space}/{name} is not valid: " ++ errorsText errors
  | .kindMismatch new old => s!"cannot compare a {new.name} to a previous {old.name}"
  | .invalid kind object errors => s!"{kind.name} {object} is invalid: " ++ errorsText errors

/-- The message and those of the causes. -/
def messages (e : AdmissionError) : List String :=
  match e with
  | .badPayload _ _ cause => [e.message, cause.message]
  | _ => [e.message]

def report (e : AdmissionError) : String := ErrorChain.report e.messages

/-- The errors of fields that the error holds. -/
def fieldErrors? : AdmissionError → Option (List FieldError)
  | .invalidSecret _ _ errors => some errors
  | .invalid _ _ errors => some errors
  | _ => none

end AdmissionError

end OpenstackAdmission
