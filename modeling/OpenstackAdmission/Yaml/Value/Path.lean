/-!
# Places in a value

A place is told by the keys and positions that lead to it. The value as a whole is a point, and a key
without a text a question mark.
-/

namespace OpenstackAdmission.Yaml

inductive Path where
  | root
  | item (parent : Path) (index : Nat)
  | entry (parent : Path) (key : String)
  | unnamed (parent : Path)
  deriving DecidableEq, Repr

namespace Path

def text : Path → String
  | .root => "."
  | .item parent index => parent.text ++ s!"[{index}]"
  | .entry parent key => (match parent with | .root => "" | p => p.text ++ ".") ++ key
  | .unnamed parent => (match parent with | .root => "" | p => p.text ++ ".") ++ "?"

/-- The place before a message, unless it is the value as a whole. -/
def beforeMessage : Path → String
  | .root => ""
  | p => p.text ++ ": "

end Path

end OpenstackAdmission.Yaml
