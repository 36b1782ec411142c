import OpenstackAdmission.Admission.Error
import OpenstackAdmission.Admission.Lookup
import OpenstackAdmission.Checks.CloudProfile
import OpenstackAdmission.Checks.NamespacedCloudProfile

/-!
# Admission of cloud profiles

The operations `validate_cloud_profile` and `validate_namespaced_cloud_profile` (specification, section
4.4).
-/

namespace OpenstackAdmission

/-- Reads a payload of an object. -/
def decodePayload {α : Type} [Codec α] (payload : Json) (field object : String) :
    Except AdmissionError α :=
  match decode payload with
  | .ok a => .ok a
  | .error cause => .error (.badPayload field object cause)

/-- Where profiles and shoots hold what they ask for. -/
def specPath : FieldPath := .root "spec"

/-- The cloud profile of a name, which has to exist. -/
def Lookup.demandProfile (lookup : Lookup) (name : String) : Except AdmissionError CloudProfile :=
  match lookup.cloudProfile name with
  | some profile => .ok profile
  | none => .error (.profileNotFound .cloudProfile name)

/-- Checks a cloud profile. -/
def CloudProfile.check (profile : CloudProfile) : Except AdmissionError (List FieldError) :=
  match profile.spec.providerConfig with
  | none =>
    .ok [.required (specPath.child "providerConfig")
      "providerConfig must be set for OpenStack cloud profiles"]
  | some payload =>
    (decodePayload payload "providerConfig" profile.metadata.objectName).map
      fun (config : CloudProfileConfig) =>
        config.check profile.spec.machineImages profile.spec.machineCapabilities specPath

/-- The provider configuration of a namespaced profile. Without one, the parent maps all images. -/
def NamespacedCloudProfile.config (profile : NamespacedCloudProfile) :
    Except AdmissionError CloudProfileConfig :=
  match profile.spec.providerConfig with
  | some payload => decodePayload payload "providerConfig" profile.metadata.objectName
  | none => .ok {}

/-- Checks a namespaced profile against its parent. -/
def NamespacedCloudProfile.check (profile : NamespacedCloudProfile) (lookup : Lookup) :
    Except AdmissionError (List FieldError) :=
  match profile.config with
  | .error e => .error e
  | .ok config =>
    (lookup.demandProfile profile.spec.parent.name).map fun parent =>
      match Versioned.CloudProfileSpec.ofProfile? parent.spec with
      | .error e => [.internal (specPath.child "parent") e.message]
      | .ok parentSpec => config.checkNamespaced profile.spec.machineImages parentSpec specPath

end OpenstackAdmission
