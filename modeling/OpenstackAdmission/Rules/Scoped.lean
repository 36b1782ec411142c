import OpenstackAdmission.Config.CloudProfile

/-!
# Scoped rules

Floating pools and providers of load balancers are rules: each admits a name, or all names that begin
with one, in a region and a domain, or everywhere.

What `ScopedRule`, `Query` and `Scope` are to the resolver (specification, section 4.2).
-/

namespace OpenstackAdmission

/-- A rule that admits names in a part of the landscape. -/
class ScopedRule (ρ : Type) where
  name : ρ → String
  /-- The only region of the rule; none means all. -/
  region : ρ → Option String
  /-- The only domain of the rule; none means all. -/
  domain : ρ → Option String
  /-- The rule admits its names besides those of all other rules. -/
  nonConstraining : ρ → Bool

instance : ScopedRule FloatingPool where
  name := FloatingPool.name
  region := FloatingPool.region
  domain := FloatingPool.domain
  nonConstraining pool := pool.nonConstraining.getD false

instance : ScopedRule LoadBalancerProvider where
  name := LoadBalancerProvider.name
  region := LoadBalancerProvider.region
  domain _ := none
  nonConstraining _ := false

/-- A request comes from a region, and from a domain if the credentials name one. -/
structure Query where
  region : String
  domain : Option String
  deriving DecidableEq

variable {ρ : Type} [ScopedRule ρ]

/-- The rule counts for the request: where it states a region or a domain, the request has it. -/
def Query.includes (q : Query) (rule : ρ) : Bool :=
  (ScopedRule.region rule).all (· = q.region) &&
    (ScopedRule.domain rule).all fun d => q.domain = some d

/-- A scope holds the rules that state exactly its domain and its region. -/
structure Scope where
  domain : Option String
  region : Option String
  deriving DecidableEq

/-- The scope of rules that state neither. -/
def Scope.everywhere : Scope := ⟨none, none⟩

def Scope.holds (s : Scope) (rule : ρ) : Bool :=
  ScopedRule.domain rule = s.domain && ScopedRule.region rule = s.region

/-- The constraining rules of a scope. -/
def Scope.rules (s : Scope) (rules : List ρ) : List ρ :=
  rules.filter fun rule => !ScopedRule.nonConstraining rule && s.holds rule

end OpenstackAdmission
