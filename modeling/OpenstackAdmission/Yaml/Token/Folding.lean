import OpenstackAdmission.Yaml.Source

/-!
# Blanks and line breaks inside a text

In a plain or quoted text blanks stay as they are within a line. Around line breaks they vanish; one line
break becomes a space, and of several the first vanishes. A line or paragraph separator stays.
-/

namespace OpenstackAdmission.Yaml

/-- What stands between two words: blanks, or line breaks with the blanks around them. -/
structure Gap where
  blanks : List Char
  broken : Bool
  first : Option Char
  others : List Char
  deriving DecidableEq, Repr

namespace Gap

def empty : Gap := ⟨[], false, none, []⟩

/-- A gap made by a line break that counts for nothing. -/
def joined : Gap := ⟨[], true, none, []⟩

def isEmpty (g : Gap) : Bool := g = empty

/-- The gap with another blank. -/
def addBlank (g : Gap) (c : Char) : Gap :=
  if g.broken then g else { g with blanks := g.blanks ++ [c] }

/-- The gap with another line break. -/
def addBreak (g : Gap) (c : Char) : Gap :=
  if g.broken then { g with others := g.others ++ [c] } else ⟨[], true, some c, []⟩

/-- What the gap becomes in the text. -/
def folded (g : Gap) : List Char :=
  if g.broken then
    if g.first = some '\n' then (if g.others = [] then [' '] else g.others)
    else g.first.toList ++ g.others
  else g.blanks

/-- One line break becomes a space. -/
example : (empty.addBreak '\n').folded = [' '] := rfl

end Gap

end OpenstackAdmission.Yaml
