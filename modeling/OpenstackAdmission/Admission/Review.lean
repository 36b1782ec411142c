import OpenstackAdmission.Admission.Shoot

/-!
# Admission

A resource is admitted if nothing is wrong with it. One that replaces another has to be of its kind, and
one that is being deleted is admitted as it is.

The operation `validate`, the admission dispatcher (specification, section 11.1).
-/

namespace OpenstackAdmission.Resource

def shoot? : Resource → Option Shoot
  | .shoot s => some s
  | _ => none

/-- The errors of a resource, which may replace another of its kind. -/
def check (r : Resource) (old : Option Resource) (lookup : Lookup) :
    Except AdmissionError (List FieldError) :=
  match r with
  | .shoot s => s.check (old.bind shoot?) lookup
  | .cloudProfile profile => profile.check
  | .namespacedCloudProfile profile => profile.check lookup
  | .secretBinding binding => lookup.checkCredentialsUse binding.credentialsUse
  | .credentialsBinding binding => lookup.checkCredentialsUse binding.credentialsUse
  | .backupBucket bucket => lookup.checkCredentialsUse bucket.credentialsUse
  | .seed s =>
    match s.spec.backup.filter (·.provider = openstackType) with
    | some backup => lookup.checkCredentialsUse backup.credentialsUse
    | none => .ok []
  | .secret s => .ok (Credentials.check s (.root "data"))

/-- The resource replaces one of another kind. -/
def mismatch? (r : Resource) (old : Option Resource) : Option ResourceKind :=
  (old.map kind).filter (· ≠ r.kind)

/-- Admits a resource, which may replace another. -/
def review (r : Resource) (old : Option Resource) (lookup : Lookup) : Except AdmissionError Unit :=
  match r.mismatch? old with
  | some oldKind => .error (.kindMismatch r.kind oldKind)
  | none =>
    if r.metadata.isDeleting then .ok ()
    else
      match r.check old lookup with
      | .error e => .error e
      | .ok [] => .ok ()
      | .ok errors => .error (.invalid r.kind r.objectName errors)

end OpenstackAdmission.Resource
