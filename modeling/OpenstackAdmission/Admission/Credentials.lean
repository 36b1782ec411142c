import OpenstackAdmission.Admission.Error
import OpenstackAdmission.Admission.Lookup
import OpenstackAdmission.Checks.Credentials

/-!
# Credentials of resources

Bindings, buckets and seeds refer to a secret, in a namespace that they state or in their own. All of them
demand that the secret exists and holds credentials. Shoots take their domain from the secret of their
binding.

The operations `validate_secret_binding`, `validate_credentials_binding`, `validate_backup_bucket` and
`validate_seed` with `validate_referenced_secret`, and `shoot_domain` (specification, section 12.5).
-/

namespace OpenstackAdmission

/-- The provider type of all resources that are checked. -/
def openstackType : String := "openstack"

/-- A secret by its namespace and name. -/
structure SecretKey where
  space : String
  name : String
  deriving DecidableEq

/-- The secret of a reference from a namespace. -/
def SecretReference.key (r : SecretReference) (space : String) : SecretKey :=
  ⟨r.space.getD space, r.name⟩

/-- The secret of a reference from a namespace, if the reference leads to a secret. -/
def ObjectReference.secretKey? (r : ObjectReference) (space : String) : Option SecretKey :=
  if r.kind = ResourceKind.secret.name then some ⟨r.space.getD space, r.name⟩ else none

/-- The provider type is another one. -/
def unsupportedProvider (providerType : String) (path : FieldPath) : FieldError :=
  .notSupported path (.str providerType) [openstackType]

/-- The reference leads to something else than a secret. -/
def unsupportedCredentials (r : ObjectReference) (path : FieldPath) : FieldError :=
  .notSupported path (.str r.kind) [ResourceKind.secret.name]

/-- Demands that a secret exists and holds credentials. -/
def Lookup.demandCredentials (lookup : Lookup) (key : SecretKey) : Except AdmissionError Unit :=
  match lookup.secret key.space key.name with
  | none => .error (.secretNotFound key.space key.name)
  | some secret =>
    match Credentials.check secret (.root "data") with
    | [] => .ok ()
    | errors => .error (.invalidSecret key.space key.name errors)

/-- The secret that a resource refers to, or the errors that it has before. -/
abbrev CredentialsUse := Except (List FieldError) SecretKey

def SecretBinding.credentialsUse (b : SecretBinding) : CredentialsUse :=
  match b.provider.filter (·.providerType ≠ openstackType) with
  | some provider =>
    .error [unsupportedProvider provider.providerType (.ofFields ["provider", "type"])]
  | none => .ok (b.secretRef.key b.metadata.referenceNamespace)

def CredentialsBinding.credentialsUse (b : CredentialsBinding) : CredentialsUse :=
  if b.provider.providerType ≠ openstackType then
    .error [unsupportedProvider b.provider.providerType (.ofFields ["provider", "type"])]
  else
    match b.credentialsRef.secretKey? b.metadata.referenceNamespace with
    | some key => .ok key
    | none =>
      .error [unsupportedCredentials b.credentialsRef (.ofFields ["credentialsRef", "kind"])]

/-- A bucket refers to its credentials in one of two fields, of which the newer one counts first. -/
def BackupBucket.credentialsUse (b : BackupBucket) : CredentialsUse :=
  let spec := b.spec
  let space := b.metadata.referenceNamespace
  if spec.provider.providerType ≠ openstackType then
    .error [unsupportedProvider spec.provider.providerType (.ofFields ["spec", "provider", "type"])]
  else
    match spec.credentialsRef, spec.secretRef with
    | some reference, _ =>
      match reference.secretKey? space with
      | some key => .ok key
      | none =>
        .error [unsupportedCredentials reference (.ofFields ["spec", "credentialsRef", "kind"])]
    | none, some reference => .ok (reference.key space)
    | none, none =>
      .error [.required (.ofFields ["spec", "credentialsRef"])
        "must refer to the credentials of the bucket"]

/-- The secret of a backup of a seed. A seed has no namespace, so references lead to the empty one unless
they state another. -/
def SeedBackup.credentialsUse (b : SeedBackup) : CredentialsUse :=
  match b.credentialsRef with
  | none =>
    .error [.required (.ofFields ["spec", "backup", "credentialsRef"])
      "must refer to the credentials of the backup bucket"]
  | some reference =>
    match reference.secretKey? "" with
    | some key => .ok key
    | none =>
      .error [unsupportedCredentials reference
        (.ofFields ["spec", "backup", "credentialsRef", "kind"])]

/-- The errors of a resource that uses credentials and has nothing else to check. -/
def Lookup.checkCredentialsUse (lookup : Lookup) (credentials : CredentialsUse) :
    Except AdmissionError (List FieldError) :=
  match credentials with
  | .error errors => .ok errors
  | .ok key => (lookup.demandCredentials key).map fun () => []

/-- The secret behind the binding of a shoot, if the shoot names a binding that leads to a secret. -/
def Shoot.secretKey? (shoot : Shoot) (lookup : Lookup) :
    Except AdmissionError (Option SecretKey) :=
  let space := shoot.metadata.referenceNamespace
  match shoot.spec.credentialsBindingName, shoot.spec.secretBindingName with
  | some name, _ =>
    match lookup.credentialsBinding space name with
    | none => .error (.bindingNotFound .credentialsBinding space name)
    | some binding => .ok (binding.credentialsRef.secretKey? space)
  | none, some name =>
    match lookup.secretBinding space name with
    | none => .error (.bindingNotFound .secretBinding space name)
    | some binding => .ok (some (binding.secretRef.key space))
  | none, none => .ok none

/-- The domain that a secret names, if it is there and a text. -/
def Secret.domain? (secret : Secret) : Option String :=
  match secret.value Credentials.domainName with
  | .ok domain => domain
  | .error _ => none

/-- The domain of the credentials of a shoot, if it has any. -/
def Shoot.domain (shoot : Shoot) (lookup : Lookup) : Except AdmissionError (Option String) :=
  match shoot.secretKey? lookup with
  | .error e => .error e
  | .ok none => .ok none
  | .ok (some key) =>
    match lookup.secret key.space key.name with
    | none => .error (.secretNotFound key.space key.name)
    | some secret => .ok secret.domain?

end OpenstackAdmission
