import OpenstackAdmission.Manifest.Shoot
import OpenstackAdmission.Report.FieldError

/-!
# Networks of shoots

The operation `validate_networking` (specification, section 12.4).
-/

namespace OpenstackAdmission

/-- Checks that a shoot states a network for its nodes, in which its workers are placed. -/
def Networking.check (networking : Option Networking) (path : FieldPath) : List FieldError :=
  errorIf (!(networking.bind Networking.nodes).any (· ≠ ""))
    (.required (path.child "nodes") "a nodes CIDR must be provided for OpenStack shoots")

end OpenstackAdmission
