import OpenstackAdmission.Manifest.Resource

/-!
# Finding objects

Objects refer to others by kind, namespace and name. A `Lookup` finds them; that of a list of resources
finds the first resource of the kind with that namespace and name.

What `ObjectLookup` is to the admission dispatcher, and `StaticLookup` (specification, section 12.5).
-/

namespace OpenstackAdmission

/-- How the objects that a resource refers to are found. Cloud profiles have no namespace. -/
structure Lookup where
  cloudProfile : String → Option CloudProfile
  namespacedCloudProfile : String → String → Option NamespacedCloudProfile
  secret : String → String → Option Secret
  secretBinding : String → String → Option SecretBinding
  credentialsBinding : String → String → Option CredentialsBinding

namespace ObjectMeta

/-- The object has this name. -/
def hasName (m : ObjectMeta) (name : String) : Bool := m.name = some name

/-- The object has this namespace and name. -/
def isAt (m : ObjectMeta) (space name : String) : Bool := m.hasName name && m.space = some space

end ObjectMeta

namespace Resource

def cloudProfile? : Resource → Option CloudProfile
  | .cloudProfile r => some r
  | _ => none

def namespacedCloudProfile? : Resource → Option NamespacedCloudProfile
  | .namespacedCloudProfile r => some r
  | _ => none

def secret? : Resource → Option Secret
  | .secret r => some r
  | _ => none

def secretBinding? : Resource → Option SecretBinding
  | .secretBinding r => some r
  | _ => none

def credentialsBinding? : Resource → Option CredentialsBinding
  | .credentialsBinding r => some r
  | _ => none

end Resource

/-- The lookup of a list of resources. -/
def Lookup.ofResources (resources : List Resource) : Lookup where
  cloudProfile name :=
    (resources.filterMap Resource.cloudProfile?).find? (·.metadata.hasName name)
  namespacedCloudProfile space name :=
    (resources.filterMap Resource.namespacedCloudProfile?).find? (·.metadata.isAt space name)
  secret space name :=
    (resources.filterMap Resource.secret?).find? (·.metadata.isAt space name)
  secretBinding space name :=
    (resources.filterMap Resource.secretBinding?).find? (·.metadata.isAt space name)
  credentialsBinding space name :=
    (resources.filterMap Resource.credentialsBinding?).find? (·.metadata.isAt space name)

end OpenstackAdmission
