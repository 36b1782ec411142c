import OpenstackAdmission.Config.LoadBalancer
import OpenstackAdmission.Report.FieldError

/-!
# Load balancer classes

Classes are checked one by one and as a set: their names are distinct, and at most one serves as the
default class and at most one as the private class.

The operations `validate_load_balancer_class` and `validate_load_balancer_classes` (specification, section
4.3).
-/

namespace OpenstackAdmission

namespace LoadBalancerClass

/-- The class states a purpose that there is not. -/
def unknownPurpose? (c : LoadBalancerClass) : Option String :=
  c.purpose.filter fun p => !(LoadBalancerPurpose.all.map LoadBalancerPurpose.word).contains p

/-- How many of the ways to choose a floating subnet the class uses. -/
def subnetSelectorCount (c : LoadBalancerClass) : Nat :=
  ([c.floatingSubnetID, c.floatingSubnetName, c.floatingSubnetTags].filter Option.isSome).length

/-- Checks a class on its own. -/
def check (c : LoadBalancerClass) (path : FieldPath) : List FieldError :=
  (match c.unknownPurpose? with
    | some purpose =>
      [.invalid (path.child "purpose") (.str purpose)
        ("invalid load balancer class purpose, valid values are "
          ++ Text.enumerated (LoadBalancerPurpose.all.map fun p => Text.quoted p.word))]
    | none => [])
  ++ errorIf (1 < c.subnetSelectorCount)
    (.forbidden path
      "specify only one of floatingSubnetID, floatingSubnetName or floatingSubnetTags")

/-- Several classes that serve one purpose. -/
def checkPurpose (classes : List LoadBalancerClass) (path : FieldPath)
    (purpose : LoadBalancerPurpose) : List FieldError :=
  errorIf (1 < (classes.filter (·.hasPurpose purpose)).length)
    (.invalid path (.ofStrings (classes.map LoadBalancerClass.name))
      ("not allowed to configure more than one " ++ purpose.word ++ " load balancer class"))

/-- Checks classes as a set. -/
def checkAll (classes : List LoadBalancerClass) (path : FieldPath) : List FieldError :=
  checkEachAfter path classes (fun path earlier c =>
    errorIf (earlier.any (·.name = c.name)) (.duplicate (path.child "name") (.str c.name))
      ++ c.check path)
  ++ [LoadBalancerPurpose.standard, .priv].flatMap (checkPurpose classes path)

end LoadBalancerClass

end OpenstackAdmission
