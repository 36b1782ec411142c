import OpenstackAdmission.Manifest.Backup
import OpenstackAdmission.Manifest.Binding
import OpenstackAdmission.Manifest.CloudProfile
import OpenstackAdmission.Manifest.Secret
import OpenstackAdmission.Manifest.Shoot

/-!
# Resources

The objects that are admitted. A manifest tells by its kind which of them it is.
-/

namespace OpenstackAdmission

inductive ResourceKind where
  | shoot
  | cloudProfile
  | namespacedCloudProfile
  | secretBinding
  | credentialsBinding
  | backupBucket
  | seed
  | secret
  deriving DecidableEq, Repr

namespace ResourceKind

/-- The name of a kind in manifests. -/
def name : ResourceKind → String
  | .shoot => "Shoot"
  | .cloudProfile => "CloudProfile"
  | .namespacedCloudProfile => "NamespacedCloudProfile"
  | .secretBinding => "SecretBinding"
  | .credentialsBinding => "CredentialsBinding"
  | .backupBucket => "BackupBucket"
  | .seed => "Seed"
  | .secret => "Secret"

/-- All kinds, in the order in which messages list them. -/
def all : List ResourceKind :=
  [.shoot, .cloudProfile, .namespacedCloudProfile, .secretBinding, .credentialsBinding,
    .backupBucket, .seed, .secret]

/-- The kind of a name. -/
def ofName? (name : String) : Option ResourceKind := all.find? (·.name = name)

end ResourceKind

inductive Resource where
  | shoot (shoot : Shoot)
  | cloudProfile (profile : CloudProfile)
  | namespacedCloudProfile (profile : NamespacedCloudProfile)
  | secretBinding (binding : SecretBinding)
  | credentialsBinding (binding : CredentialsBinding)
  | backupBucket (bucket : BackupBucket)
  | seed (seed : Seed)
  | secret (secret : Secret)

namespace Resource

def kind : Resource → ResourceKind
  | .shoot _ => .shoot
  | .cloudProfile _ => .cloudProfile
  | .namespacedCloudProfile _ => .namespacedCloudProfile
  | .secretBinding _ => .secretBinding
  | .credentialsBinding _ => .credentialsBinding
  | .backupBucket _ => .backupBucket
  | .seed _ => .seed
  | .secret _ => .secret

def metadata : Resource → ObjectMeta
  | .shoot r => r.metadata
  | .cloudProfile r => r.metadata
  | .namespacedCloudProfile r => r.metadata
  | .secretBinding r => r.metadata
  | .credentialsBinding r => r.metadata
  | .backupBucket r => r.metadata
  | .seed r => r.metadata
  | .secret r => r.metadata

/-- The name of the object behind its namespace, if it has one. -/
def objectName (r : Resource) : String := r.metadata.objectName

/-- Reads a manifest of a kind. -/
def decodeAs (manifest : Json) : ResourceKind → Except DecodeError Resource
  | .shoot => (decode manifest).map .shoot
  | .cloudProfile => (decode manifest).map .cloudProfile
  | .namespacedCloudProfile => (decode manifest).map .namespacedCloudProfile
  | .secretBinding => (decode manifest).map .secretBinding
  | .credentialsBinding => (decode manifest).map .credentialsBinding
  | .backupBucket => (decode manifest).map .backupBucket
  | .seed => (decode manifest).map .seed
  | .secret => (decode manifest).map .secret

/-- Reads a manifest. Its kind is looked at first, and without one it is not read at all. -/
def ofManifest (manifest : Json) : Except DecodeError Resource :=
  match manifest.get? "kind" with
  | some (.str kind) =>
    match ResourceKind.ofName? kind with
    | some k => decodeAs manifest k
    | none => .error (.unknownKind kind (ResourceKind.all.map ResourceKind.name))
  | _ => .error (.missingField "kind")

end Resource

end OpenstackAdmission
