import OpenstackAdmission.Checks.LoadBalancer
import OpenstackAdmission.Checks.ProviderImage
import OpenstackAdmission.Checks.TextField
import OpenstackAdmission.Config.CloudProfile
import OpenstackAdmission.Images.Matrix
import OpenstackAdmission.Net.Url
import OpenstackAdmission.Text.Duration

/-!
# Provider configuration of cloud profiles

What a profile offers is complete and without repetitions, its addresses and times are well formed, and its
images match those of the profile.

The operation `validate_cloud_profile_config` with its parts `validate_floating_pools`,
`validate_load_balancer_providers`, `validate_keystone_urls` and `validate_storage_classes` (specification,
section 12.1).
-/

namespace OpenstackAdmission

/-- Checks floating pools. Two pools differ in their name, their region or their domain. -/
def FloatingPool.checkAll (pools : List FloatingPool) (path : FieldPath) : List FieldError :=
  errorIf (pools = []) (.required path "must provide at least one floating pool")
  ++ checkEachAfter path pools fun path earlier pool =>
    errorIf (pool.name = "") (.required (path.child "name") "must provide a name")
    ++ errorIf (pool.region = some "")
      (.required (path.child "region") "must provide a region if key is present")
    ++ errorIf (pool.domain = some "")
      (.required (path.child "domain") "must provide a domain if key is present")
    ++ errorIf (earlier.any fun p =>
        p.name = pool.name && p.region = pool.region && p.domain = pool.domain)
      (.duplicate (path.child "name") (.str pool.name))
    ++ LoadBalancerClass.checkAll pool.loadBalancerClasses (path.child "loadBalancerClasses")

/-- Checks providers of load balancers. Two providers differ in their name or their region. -/
def LoadBalancerProvider.checkAll (providers : List LoadBalancerProvider) (path : FieldPath) :
    List FieldError :=
  errorIf (providers = []) (.required path "must provide at least one load balancer provider")
  ++ checkEachAfter path providers fun path earlier provider =>
    errorIf (provider.name = "") (.required (path.child "name") "must provide a name")
    ++ errorIf (provider.region = some "")
      (.required (path.child "region") "must provide a region if key is present")
    ++ errorIf (earlier.any fun p => p.name = provider.name && p.region = provider.region)
      (.duplicate (path.child "name") (.str provider.name))

/-- Checks the text of a URL. -/
def checkUrl (url : String) (path : FieldPath) : List FieldError :=
  match Net.Url.check url with
  | .ok () => []
  | .error e => [.invalid path (.str url) ("must be a valid URL: " ++ e.message)]

/-- Checks the addresses of the identity service for regions. -/
def KeystoneURL.checkAll (urls : List KeystoneURL) (path : FieldPath) : List FieldError :=
  checkEachAfter path urls fun path earlier u =>
    (if u.region = "" then [.required (path.child "region") "must provide a region"]
      else
        errorIf (earlier.any (·.region = u.region))
          (.duplicate (path.child "region") (.str u.region)))
    ++ if u.url = "" then [.required (path.child "url") "must provide an url"]
      else checkUrl u.url (path.child "url")

/-- Checks storage classes. At most one of them is the default. -/
def StorageClass.checkAll (classes : List StorageClass) (path : FieldPath) : List FieldError :=
  checkEachAfter path classes fun path earlier c =>
    (if c.name = "" then [.required (path.child "name") "must provide a name"]
      else
        errorIf (earlier.any (·.name = c.name)) (.duplicate (path.child "name") (.str c.name)))
    ++ errorIf (c.isDefault = some true && earlier.any (·.isDefault = some true))
      (.invalid (path.child "default") (.bool true)
        "only one default storage class is allowed")
    ++ (match c.reclaimPolicy with
      | some policy => TextCheck.reclaimPolicy policy (path.child "reclaimPolicy")
      | none => [])
    ++ match c.volumeBindingMode with
      | some mode => TextCheck.volumeBindingMode mode (path.child "volumeBindingMode")
      | none => []

namespace CloudProfileConfig

/-- Checks the addresses of the identity service, of which there has to be one. -/
def checkKeystone (c : CloudProfileConfig) (path : FieldPath) : List FieldError :=
  errorIf (c.keystoneURL = "" && c.keystoneURLs = [])
    (.required (path.child "keystoneURL") "must provide the URL to KeyStone")
  ++ (if c.keystoneURL = "" then [] else checkUrl c.keystoneURL (path.child "keystoneURL"))
  ++ KeystoneURL.checkAll c.keystoneURLs (path.child "keystoneURLs")

/-- Checks the addresses of name servers. -/
def checkDnsServers (servers : List String) (path : FieldPath) : List FieldError :=
  checkEach path servers fun path server =>
    errorIf (Net.Address.parse? server.toList).isNone
      (.invalid path (.str server) "must be a valid IP address")

/-- Checks how long requests may take. -/
def checkTimeout (timeout : Option String) (path : FieldPath) : List FieldError :=
  match timeout with
  | none => []
  | some text =>
    match Text.Duration.parse text with
    | .ok _ => []
    | .error e => [.invalid path (.str text) ("must be a valid duration: " ++ e.message)]

/-- Checks the policies that worker pools may choose. -/
def checkPolicies (policies : List String) (path : FieldPath) : List FieldError :=
  checkEachAfter path policies fun path earlier policy =>
    if policy = "" then [.required path "policy cannot be empty"]
    else errorIf (policy ∈ earlier) (.duplicate path (.str policy))

/-- Checks everything but the images; `path` leads to the configuration. -/
def checkOffers (c : CloudProfileConfig) (path : FieldPath) : List FieldError :=
  let constraints := path.child "constraints"
  FloatingPool.checkAll c.constraints.floatingPools (constraints.child "floatingPools")
  ++ LoadBalancerProvider.checkAll c.constraints.loadBalancerProviders
    (constraints.child "loadBalancerProviders")
  ++ c.checkKeystone path
  ++ checkDnsServers c.dnsServers (path.child "dnsServers")
  ++ errorIf (c.dhcpDomain = some "")
    (.required (path.child "dhcpDomain")
      "must provide a dhcp domain when the key is specified")
  ++ checkTimeout c.requestTimeout (path.child "requestTimeout")
  ++ checkPolicies c.serverGroupPolicies (path.child "serverGroupPolicies")
  ++ StorageClass.checkAll c.storageClasses (path.child "storageClasses")

/-- Checks the images against those of the profile. -/
def checkImages (c : CloudProfileConfig) (profileImages : List MachineImage)
    (definitions : List Versioned.CapabilityDefinition) (specPath : FieldPath) :
    List FieldError :=
  let path := (specPath.child "providerConfig").child "machineImages"
  let matrix : ImageMatrix :=
    { profileImages
      providerImages := c.machineImages
      parentImages := []
      definitions
      profileKind := "CloudProfile" }
  errorIf (c.machineImages = []) (.required path "must provide at least one machine image")
  ++ checkEach path c.machineImages (fun path image => image.check definitions path)
  ++ matrix.check (specPath.child "machineImages") path

/-- Checks a configuration against the images and capabilities of its profile; `specPath` leads to the
specification of the profile. Without capabilities that convert, images are not checked. -/
def check (c : CloudProfileConfig) (profileImages : List MachineImage)
    (capabilities : List CapabilityDefinition) (specPath : FieldPath) : List FieldError :=
  c.checkOffers (specPath.child "providerConfig")
  ++ match Versioned.definitionsOfProfile? capabilities with
    | .error e => [.internal (specPath.child "machineCapabilities") e.message]
    | .ok definitions => c.checkImages profileImages definitions specPath

end CloudProfileConfig

end OpenstackAdmission
