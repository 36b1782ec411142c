import OpenstackAdmission.Codec.Record

/-!
# Load balancers

The providers of load balancers, and the classes that say how a load balancer is set up.
-/

namespace OpenstackAdmission

/-- A provider of load balancers, in one region if it states one. A name that ends in `*` stands for all
names that begin with the rest. -/
structure LoadBalancerProvider where
  name : String
  region : Option String
  deriving DecidableEq

instance : Codec LoadBalancerProvider where
  encode p := .record [Codec.field "name" p.name, Codec.field? "region" p.region]
  decode := Codec.decodeRecord "LoadBalancerProvider"
    (LoadBalancerProvider.mk <$> Fields.required "name" <*> Fields.optional "region")

/-- What a class is used for unless a service asks for another one. -/
inductive LoadBalancerPurpose where
  | standard
  | priv
  | vpn
  deriving DecidableEq, Repr

/-- The word for a purpose in a class. -/
def LoadBalancerPurpose.word : LoadBalancerPurpose → String
  | .standard => "default"
  | .priv => "private"
  | .vpn => "vpn"

/-- All purposes. -/
def LoadBalancerPurpose.all : List LoadBalancerPurpose := [.standard, .priv, .vpn]

structure LoadBalancerClass where
  name : String
  purpose : Option String
  floatingSubnetID : Option String
  floatingSubnetTags : Option String
  floatingSubnetName : Option String
  floatingNetworkID : Option String
  subnetID : Option String
  deriving DecidableEq

instance : Codec LoadBalancerClass where
  encode c := .record [
    Codec.field "name" c.name,
    Codec.field? "purpose" c.purpose,
    Codec.field? "floatingSubnetID" c.floatingSubnetID,
    Codec.field? "floatingSubnetTags" c.floatingSubnetTags,
    Codec.field? "floatingSubnetName" c.floatingSubnetName,
    Codec.field? "floatingNetworkID" c.floatingNetworkID,
    Codec.field? "subnetID" c.subnetID]
  decode := Codec.decodeRecord "LoadBalancerClass"
    (LoadBalancerClass.mk <$> Fields.required "name" <*> Fields.optional "purpose"
      <*> Fields.optional "floatingSubnetID" <*> Fields.optional "floatingSubnetTags"
      <*> Fields.optional "floatingSubnetName" <*> Fields.optional "floatingNetworkID"
      <*> Fields.optional "subnetID")

/-- The class serves a purpose: it states it, or is named after it. -/
def LoadBalancerClass.hasPurpose (c : LoadBalancerClass) (p : LoadBalancerPurpose) : Bool :=
  c.name = p.word || c.purpose = some p.word

end OpenstackAdmission
