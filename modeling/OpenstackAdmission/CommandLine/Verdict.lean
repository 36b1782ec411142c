import OpenstackAdmission.Admission.Review
import OpenstackAdmission.CommandLine.Loading

/-!
# Verdicts on manifests

All resources of some files are reviewed, each with its previous state if there is one. What they refer to
is found among them and among resources that only give context. Nothing is reviewed unless everything was
loaded.

The verdicts go to standard output. Standard error has the report of what was not loaded, and the log.

The command `validate` with `previous_state` (specification, sections 11.2, 11.3 and 13).
-/

namespace OpenstackAdmission

/-- What is loaded first, second and last. -/
inductive LoadStage where
  | manifests
  | previous
  | context
  deriving DecidableEq, Repr

def LoadStage.message : LoadStage → String
  | .manifests => "failed to load manifests to validate"
  | .previous => "failed to load previous manifests"
  | .context => "failed to load context manifests"

/-- The files to validate, those of previous states, and those of resources that give context. -/
structure ValidationRequest where
  manifests : List ManifestFile
  previous : List ManifestFile
  context : List ManifestFile

/-- A resource and whether it is admitted. -/
structure Verdict where
  resource : Resource
  result : Except AdmissionError Unit

namespace Verdict

def isValid (v : Verdict) : Bool :=
  match v.result with
  | .ok () => true
  | .error _ => false

/-- What is printed of a verdict: a line, and more if there are errors. -/
def text (v : Verdict) : String :=
  let subject := v.resource.kind.name ++ " " ++ v.resource.objectName
  match v.result with
  | .ok () => subject ++ ": valid\n"
  | .error (.invalid _ _ errors) =>
    subject ++ ": invalid\n" ++ String.join (errors.map fun e => "  " ++ e.text ++ "\n")
  | .error e => subject ++ ": " ++ e.report ++ "\n"

/-- The previous state of a resource: the first resource of its kind and name. -/
def previousState (r : Resource) (previous : List Resource) : Option Resource :=
  previous.find? fun old => old.kind = r.kind && old.objectName = r.objectName

/-- The verdict on a resource. -/
def on (lookup : Lookup) (previous : List Resource) (r : Resource) : Verdict :=
  ⟨r, r.review (previousState r previous) lookup⟩

/-- The verdicts on resources, in order. -/
def onAll (resources previous context : List Resource) : List Verdict :=
  resources.map (on (Lookup.ofResources (resources ++ context)) previous)

end Verdict

/-- What was not loaded, and when. -/
structure LoadFailure where
  stage : LoadStage
  fault : LoadFault
  deriving DecidableEq, Repr

/-- The message and those of the causes. -/
def LoadFailure.messages (f : LoadFailure) : List String := f.stage.message :: f.fault.messages

/-- How a validation ends: it fails to load something, or there are verdicts. -/
abbrev ValidationOutcome := Except LoadFailure (List Verdict)

namespace ValidationOutcome

/-- Zero if all resources are admitted, one if some are not, and two if something was not loaded. -/
def exitStatus : ValidationOutcome → Nat
  | .error _ => 2
  | .ok verdicts => if verdicts.all Verdict.isValid then 0 else 1

/-- The number of resources that are not admitted. -/
def rejected : ValidationOutcome → Nat
  | .error _ => 0
  | .ok verdicts => verdicts.countP (!·.isValid)

def standardOutput : ValidationOutcome → String
  | .error _ => ""
  | .ok verdicts => String.join (verdicts.map Verdict.text)

/-- What is written to standard error besides the log. The lines of the log go there too, but they carry the time,
and the environment decides which of them are written; what they record is `logged`. -/
def standardError : ValidationOutcome → String
  | .error failure => ErrorChain.report failure.messages ++ "\n"
  | .ok _ => ""

/-- What a line of the log records, apart from its time. -/
structure LogRecord where
  message : String
  count : Nat
  rejected : Nat
  deriving DecidableEq, Repr

/-- What a validation logs if nothing else is asked for: how many resources were reviewed, and how many of them are
not admitted. -/
def logged : ValidationOutcome → List LogRecord
  | .error _ => []
  | .ok verdicts => [⟨"validated resources", verdicts.length, rejected (.ok verdicts)⟩]

end ValidationOutcome

namespace ValidationRequest

/-- The resources of the files that are loaded at some stage. -/
def loadStage (documents : String → List ManifestDocument) (stage : LoadStage)
    (files : List ManifestFile) : Except LoadFailure (List Resource) :=
  (ManifestFile.loadAll documents files).mapError (⟨stage, ·⟩)

/-- Validates a request. -/
def run (documents : String → List ManifestDocument) (request : ValidationRequest) :
    ValidationOutcome := do
  let resources ← loadStage documents .manifests request.manifests
  let previous ← loadStage documents .previous request.previous
  let context ← loadStage documents .context request.context
  return Verdict.onAll resources previous context

end ValidationRequest

end OpenstackAdmission
