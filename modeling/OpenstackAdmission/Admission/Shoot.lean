import OpenstackAdmission.Admission.Credentials
import OpenstackAdmission.Admission.Profile
import OpenstackAdmission.Checks.Infrastructure
import OpenstackAdmission.Checks.Networking
import OpenstackAdmission.Checks.Worker

/-!
# Admission of shoots

The payloads of a shoot are read first, then the cloud profile and the domain of the credentials are looked
up, and then everything is checked; what a shoot has kept since it was admitted is not checked against the
profile again.

The operation `validate_shoot` with `shoot_cloud_profile_config` (specification, section 12.4).
-/

namespace OpenstackAdmission

/-- The payloads of a shoot and of the shoot it replaces. -/
structure ShootConfigs where
  infrastructure : InfrastructureConfig
  controlPlane : ControlPlaneConfig
  oldInfrastructure : Option InfrastructureConfig
  oldControlPlane : Option ControlPlaneConfig

/-- What a shoot is checked against. -/
structure ShootSurroundings where
  profile : CloudProfileConfig
  domain : Option String

/-- Where a shoot holds its provider section. -/
def providerPath : FieldPath := specPath.child "provider"

def infrastructurePath : FieldPath := providerPath.child "infrastructureConfig"

def controlPlanePath : FieldPath := providerPath.child "controlPlaneConfig"

def workersPath : FieldPath := providerPath.child "workers"

namespace Shoot

/-- Reads an infrastructure; all payloads are reported under the name of the new shoot. -/
def decodeInfrastructure (shoot : Shoot) (payload : Json) :
    Except AdmissionError InfrastructureConfig :=
  decodePayload payload "infrastructureConfig" shoot.metadata.objectName

/-- Reads a control plane. -/
def decodeControlPlane (shoot : Shoot) (payload : Json) :
    Except AdmissionError ControlPlaneConfig :=
  decodePayload payload "controlPlaneConfig" shoot.metadata.objectName

/-- Reads a payload that may be missing. -/
def decodeOptional {α : Type} (decodeOne : Json → Except AdmissionError α) :
    Option Json → Except AdmissionError (Option α)
  | none => .ok none
  | some payload => (decodeOne payload).map some

/-- The payloads, or the error of one that is missing. -/
def configs (shoot : Shoot) (old : Option Shoot) :
    Except AdmissionError (Except FieldError ShootConfigs) :=
  match shoot.spec.provider.infrastructureConfig with
  | none =>
    .ok (.error (.required infrastructurePath
      "infrastructureConfig must be set for OpenStack shoots"))
  | some infrastructurePayload => do
    let infrastructure ← shoot.decodeInfrastructure infrastructurePayload
    match shoot.spec.provider.controlPlaneConfig with
    | none =>
      return .error (.required controlPlanePath
        "controlPlaneConfig must be set for OpenStack shoots")
    | some controlPlanePayload =>
      let controlPlane ← shoot.decodeControlPlane controlPlanePayload
      let oldInfrastructure ← decodeOptional shoot.decodeInfrastructure
        (old.bind (·.spec.provider.infrastructureConfig))
      let oldControlPlane ← decodeOptional shoot.decodeControlPlane
        (old.bind (·.spec.provider.controlPlaneConfig))
      return .ok { infrastructure, controlPlane, oldInfrastructure, oldControlPlane }

/-- The cloud profile that a reference leads to; a namespaced profile leads to its parent. -/
def profileName (reference : CloudProfileReference) (space : String) (lookup : Lookup) :
    Except AdmissionError String :=
  if reference.kind = ResourceKind.namespacedCloudProfile.name then
    match lookup.namespacedCloudProfile space reference.name with
    | some profile => .ok profile.spec.parent.name
    | none => .error (.profileNotFound .namespacedCloudProfile (space ++ "/" ++ reference.name))
  else .ok reference.name

/-- The provider configuration of the cloud profile of a shoot. -/
def profileConfig (reference : CloudProfileReference) (space : String) (lookup : Lookup) :
    Except AdmissionError CloudProfileConfig := do
  let name ← profileName reference space lookup
  let profile ← lookup.demandProfile name
  match profile.spec.providerConfig with
  | none => .error (.profileConfigMissing name)
  | some payload => decodePayload payload "providerConfig" name

/-- Looks up what a shoot is checked against. -/
def surroundings (shoot : Shoot) (reference : CloudProfileReference) (lookup : Lookup) :
    Except AdmissionError ShootSurroundings := do
  let profile ← profileConfig reference shoot.metadata.referenceNamespace lookup
  let domain ← shoot.domain lookup
  return { profile, domain }

/-- The network of the nodes. -/
def nodes? (shoot : Shoot) : Option String := shoot.spec.networking.bind Networking.nodes

/-- Checks the networks that a shoot states. -/
def checkNetworking (shoot : Shoot) : List FieldError :=
  Networking.check shoot.spec.networking (specPath.child "networking")

/-- Checks payloads and pools. -/
def checkConfigs (shoot : Shoot) (old : Option Shoot) (c : ShootConfigs)
    (s : ShootSurroundings) : List FieldError :=
  let q : Query := ⟨shoot.spec.region, s.domain⟩
  let workers := shoot.spec.provider.workers
  c.infrastructure.check shoot.nodes? infrastructurePath
  ++ (match c.oldInfrastructure with
    | some before => before.checkUpdate c.infrastructure infrastructurePath
    | none => [])
  ++ InfrastructureConfig.checkAgainstProfile c.oldInfrastructure c.infrastructure q s.profile
    infrastructurePath
  ++ c.controlPlane.check c.infrastructure controlPlanePath
  ++ ControlPlaneConfig.checkAgainstProfile c.oldControlPlane c.controlPlane q
    c.infrastructure.floatingPoolName s.profile controlPlanePath
  ++ Worker.checkAll workers s.profile workersPath
  ++ match old with
    | some before => Worker.checkUpdate before.spec.provider.workers workers workersPath
    | none => []

/-- Checks a shoot of the provider. -/
def checkOpenstack (shoot : Shoot) (old : Option Shoot) (lookup : Lookup) :
    Except AdmissionError (List FieldError) :=
  match shoot.configs old with
  | .error e => .error e
  | .ok (.error missing) => .ok (shoot.checkNetworking ++ [missing])
  | .ok (.ok configs) =>
    match shoot.spec.profileReference? with
    | none =>
      .ok (shoot.checkNetworking
        ++ [.required (specPath.child "cloudProfile") "must refer to a CloudProfile"])
    | some reference =>
      (shoot.surroundings reference lookup).map fun s =>
        shoot.checkNetworking ++ shoot.checkConfigs old configs s

/-- Checks a shoot, which may replace another. Shoots of other providers are not looked at. -/
def check (shoot : Shoot) (old : Option Shoot) (lookup : Lookup) :
    Except AdmissionError (List FieldError) :=
  if shoot.spec.provider.providerType ≠ openstackType then .ok []
  else shoot.checkOpenstack old lookup

end Shoot

end OpenstackAdmission
