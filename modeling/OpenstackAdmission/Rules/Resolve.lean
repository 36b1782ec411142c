import OpenstackAdmission.Report.Ascending
import OpenstackAdmission.Rules.Match
import OpenstackAdmission.Rules.Scoped

/-!
# Resolving names

A request for a name is searched in scopes, from the narrowest to the widest: rules for exactly its domain
and region, rules for its region or its domain alone, and rules for everything. If there are rules both for
the region alone and for the domain alone, a name has to be admitted by both, and no wider scope is
searched. Rules that do not constrain are searched last.

A refusal lists the names of all rules that could have admitted something.

The operation `resolve` with `Search`, `resolve_globally`, `resolve_by_region` and
`resolve_by_domain_and_region` (specification, section 4.2). The path and the rejected value of the error
are added where a name is looked up.
-/

namespace OpenstackAdmission

open ScopedRule

variable {ρ : Type} [ScopedRule ρ]

/-- The rule that matches a name best; of several the first. -/
def bestMatch (requested : String) : List ρ → Option (ρ × MatchScore)
  | [] => none
  | rule :: rest =>
    match matchScore? (name rule) requested, bestMatch requested rest with
    | none, found => found
    | some score, none => some (rule, score)
    | some score, some (other, best) =>
      if score.lt best then some (other, best) else some (rule, score)

/-- The rule that matches a name best. -/
def bestRule (requested : String) (rules : List ρ) : Option ρ :=
  (bestMatch requested rules).map Prod.fst

/-- Names of rules. -/
def ruleNames (rules : List ρ) : List String := rules.map name

/-- Searches rules, and after them whatever `next` searches, given the names searched so far. -/
def searchThen (requested : String) (rules : List ρ) (searched : List String)
    (next : List String → Except (List String) ρ) : Except (List String) ρ :=
  match bestRule requested rules with
  | some rule => .ok rule
  | none => next (searched ++ ruleNames rules)

/-- Searches the rules for everything. -/
def resolveEverywhere (rules : List ρ) (requested : String) (searched : List String) :
    Except (List String) ρ :=
  searchThen requested (Scope.everywhere.rules rules) searched .error

/-- The scope of rules for a region alone. -/
def regionScope (region : String) : Scope := ⟨none, some region⟩

/-- The scope of rules for a domain alone. -/
def domainScope (domain : String) : Scope := ⟨some domain, none⟩

/-- The names that occur both among rules for the region and among rules for the domain. -/
def commonNames (rules : List ρ) (region domain : String) : List String :=
  (ascending (ruleNames ((domainScope domain).rules rules))).filter
    (· ∈ ruleNames ((regionScope region).rules rules))

/-- The constraining rules of both scopes whose names occur in both. -/
def commonRules (rules : List ρ) (region domain : String) : List ρ :=
  rules.filter fun rule =>
    !nonConstraining rule &&
      ((regionScope region).holds rule || (domainScope domain).holds rule) &&
      name rule ∈ commonNames rules region domain

/-- Searches where both scopes have rules. If the best matches of both have one name, that of the region
counts. -/
def resolveBoth (rules : List ρ) (region domain requested : String) (searched : List String) :
    Except (List String) ρ :=
  let intersection :=
    match bestRule requested (commonRules rules region domain) with
    | some rule => .ok rule
    | none => .error (searched ++ commonNames rules region domain)
  match bestRule requested ((regionScope region).rules rules),
      bestRule requested ((domainScope domain).rules rules) with
  | some r, some d => if name r = name d then .ok r else intersection
  | _, _ => intersection

/-- Searches the scopes of a region without a domain. -/
def resolveInRegion (rules : List ρ) (region requested : String) : Except (List String) ρ :=
  searchThen requested ((regionScope region).rules rules) []
    (resolveEverywhere rules requested)

/-- Searches the scopes of a domain and a region. -/
def resolveInDomain (rules : List ρ) (domain region requested : String) :
    Except (List String) ρ :=
  searchThen requested ((⟨some domain, some region⟩ : Scope).rules rules) [] fun searched =>
    let ofRegion := (regionScope region).rules rules
    let ofDomain := (domainScope domain).rules rules
    match ofRegion, ofDomain with
    | [], ofDomain =>
      searchThen requested ofDomain searched (resolveEverywhere rules requested)
    | ofRegion, [] =>
      searchThen requested ofRegion searched (resolveEverywhere rules requested)
    | _, _ => resolveBoth rules region domain requested searched

/-- Searches the constraining rules. -/
def resolveConstrained (rules : List ρ) (q : Query) (requested : String) :
    Except (List String) ρ :=
  match q.domain with
  | some domain => resolveInDomain rules domain q.region requested
  | none => resolveInRegion rules q.region requested

/-- The rules that do not constrain and count for a request. -/
def additionalRules (rules : List ρ) (q : Query) : List ρ :=
  rules.filter fun rule => nonConstraining rule && q.includes rule

/-- The rule that admits a name, or the names that could have been admitted, ascending. -/
def resolve (rules : List ρ) (q : Query) (requested : String) : Except (List String) ρ :=
  match resolveConstrained rules q requested with
  | .ok rule => .ok rule
  | .error searched =>
    match searchThen requested (additionalRules rules q) searched .error with
    | .ok rule => .ok rule
    | .error names => .error (ascending names)

end OpenstackAdmission
