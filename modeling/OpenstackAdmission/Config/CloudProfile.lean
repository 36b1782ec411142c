import OpenstackAdmission.Config.LoadBalancer
import OpenstackAdmission.Config.ProviderImage
import OpenstackAdmission.Manifest.TypeMeta

/-!
# Provider configuration of cloud profiles

What an OpenStack landscape offers: its identity service, the pools and load balancers that shoots may
choose, its storage classes and its images.
-/

namespace OpenstackAdmission

/-- A network from which shoots take floating addresses, in one region and one domain if it states
them. A name that ends in `*` stands for all names that begin with the rest. -/
structure FloatingPool where
  name : String
  region : Option String
  domain : Option String
  defaultFloatingSubnet : Option String
  /-- The pool is available besides those of the same scope and does not restrict them. -/
  nonConstraining : Option Bool
  loadBalancerClasses : List LoadBalancerClass
  deriving DecidableEq

instance : Codec FloatingPool where
  encode p := .record [
    Codec.field "name" p.name,
    Codec.field? "region" p.region,
    Codec.field? "domain" p.domain,
    Codec.field? "defaultFloatingSubnet" p.defaultFloatingSubnet,
    Codec.field? "nonConstraining" p.nonConstraining,
    Codec.field "loadBalancerClasses" p.loadBalancerClasses]
  decode := Codec.decodeRecord "FloatingPool"
    (FloatingPool.mk <$> Fields.required "name" <*> Fields.optional "region"
      <*> Fields.optional "domain" <*> Fields.optional "defaultFloatingSubnet"
      <*> Fields.optional "nonConstraining" <*> Fields.defaulted "loadBalancerClasses" [])

/-- What shoots may choose from. -/
structure Constraints where
  floatingPools : List FloatingPool := []
  loadBalancerProviders : List LoadBalancerProvider := []
  deriving DecidableEq

instance : Codec Constraints where
  encode c := .record [
    Codec.field "floatingPools" c.floatingPools,
    Codec.field "loadBalancerProviders" c.loadBalancerProviders]
  decode := Codec.decodeRecord "Constraints"
    (Constraints.mk <$> Fields.defaulted "floatingPools" []
      <*> Fields.defaulted "loadBalancerProviders" [])

/-- The identity service of one region. -/
structure KeystoneURL where
  region : String
  url : String
  caCert : Option String
  deriving DecidableEq

instance : Codec KeystoneURL where
  encode k := .record [
    Codec.field "region" k.region,
    Codec.field "url" k.url,
    Codec.field? "caCert" k.caCert]
  decode := Codec.decodeRecord "KeyStoneUrl"
    (KeystoneURL.mk <$> Fields.required "region" <*> Fields.required "url"
      <*> Fields.optional "caCert")

structure StorageClass where
  name : String
  isDefault : Option Bool
  provisioner : Option String
  parameters : Dict String
  reclaimPolicy : Option String
  volumeBindingMode : Option String
  deriving DecidableEq

instance : Codec StorageClass where
  encode c := .record [
    Codec.field "name" c.name,
    Codec.field? "default" c.isDefault,
    Codec.field? "provisioner" c.provisioner,
    Codec.field "parameters" c.parameters,
    Codec.field? "reclaimPolicy" c.reclaimPolicy,
    Codec.field? "volumeBindingMode" c.volumeBindingMode]
  decode := Codec.decodeRecord "StorageClassDefinition"
    (StorageClass.mk <$> Fields.required "name" <*> Fields.optional "default"
      <*> Fields.optional "provisioner" <*> Fields.defaulted "parameters" Dict.empty
      <*> Fields.optional "reclaimPolicy" <*> Fields.optional "volumeBindingMode")

structure CloudProfileConfig where
  typeMeta : TypeMeta := {}
  constraints : Constraints := {}
  dnsServers : List String := []
  dhcpDomain : Option String := none
  keystoneURL : String := ""
  keystoneURLs : List KeystoneURL := []
  keystoneCACert : Option String := none
  keystoneForceInsecure : Bool := false
  machineImages : List ProviderImage := []
  /-- How long a request to the landscape may take, such as `30s`. -/
  requestTimeout : Option String := none
  rescanBlockStorageOnResize : Option Bool := none
  ignoreVolumeAZ : Option Bool := none
  nodeVolumeAttachLimit : Option UInt32 := none
  useOctavia : Option Bool := none
  useSNAT : Option Bool := none
  /-- The policies that worker pools may choose for their server groups. -/
  serverGroupPolicies : List String := []
  resolvConfOptions : List String := []
  storageClasses : List StorageClass := []
  deriving DecidableEq

namespace CloudProfileConfig

def fields : Fields CloudProfileConfig :=
  CloudProfileConfig.mk <$> Fields.afterOthers TypeMeta.fields
    <*> Fields.defaulted "constraints" {}
    <*> Fields.defaulted "dnsServers" []
    <*> Fields.optional "dhcpDomain"
    <*> Fields.defaulted "keystoneURL" ""
    <*> Fields.defaulted "keystoneURLs" []
    <*> Fields.optional "keystoneCACert"
    <*> Fields.defaulted "keystoneForceInsecure" false
    <*> Fields.defaulted "machineImages" []
    <*> Fields.optional "requestTimeout"
    <*> Fields.optional "rescanBlockStorageOnResize"
    <*> Fields.optional "ignoreVolumeAZ"
    <*> Fields.optional "nodeVolumeAttachLimit"
    <*> Fields.optional "useOctavia"
    <*> Fields.optional "useSNAT"
    <*> Fields.defaulted "serverGroupPolicies" []
    <*> Fields.defaulted "resolvConfOptions" []
    <*> Fields.defaulted "storageClasses" []

instance : Codec CloudProfileConfig where
  encode c := .record (c.typeMeta.entries ++ [
    Codec.field "constraints" c.constraints,
    Codec.field "dnsServers" c.dnsServers,
    Codec.field? "dhcpDomain" c.dhcpDomain,
    Codec.field "keystoneURL" c.keystoneURL,
    Codec.field "keystoneURLs" c.keystoneURLs,
    Codec.field? "keystoneCACert" c.keystoneCACert,
    Codec.field "keystoneForceInsecure" c.keystoneForceInsecure,
    Codec.field "machineImages" c.machineImages,
    Codec.field? "requestTimeout" c.requestTimeout,
    Codec.field? "rescanBlockStorageOnResize" c.rescanBlockStorageOnResize,
    Codec.field? "ignoreVolumeAZ" c.ignoreVolumeAZ,
    Codec.field? "nodeVolumeAttachLimit" c.nodeVolumeAttachLimit,
    Codec.field? "useOctavia" c.useOctavia,
    Codec.field? "useSNAT" c.useSNAT,
    Codec.field "serverGroupPolicies" c.serverGroupPolicies,
    Codec.field "resolvConfOptions" c.resolvConfOptions,
    Codec.field "storageClasses" c.storageClasses])
  decode := Codec.decodeNamed "struct CloudProfileConfig" fields

/-- The part of a configuration that a namespaced profile may set: its images. -/
def imagesOnly (c : CloudProfileConfig) : CloudProfileConfig :=
  { typeMeta := c.typeMeta, machineImages := c.machineImages }

end CloudProfileConfig

end OpenstackAdmission
