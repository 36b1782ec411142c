import OpenstackAdmission.Yaml.SyntaxError
import OpenstackAdmission.Yaml.Token.Folding

/-!
# Plain texts

A plain text has no quotes. It ends where a colon and a blank, a comment or a line of a lower indentation
begins, and in a flow collection at its signs.
-/

namespace OpenstackAdmission.Yaml

/-- Where a text stands: the least column of its lines, and whether in a flow collection. -/
structure Surroundings where
  leastColumn : Nat
  inFlow : Bool

/-- A text that was read, whether lines ended behind it, and what follows. -/
structure PlainText where
  text : String
  broken : Bool
  rest : Source

namespace PlainText

/-- Signs of flow collections that end a text. -/
def isFlowSign (c : Char) : Bool :=
  c = ',' || c = '[' || c = ']' || c = '\x7b' || c = '\x7d'

/-- Signs that must not stand behind a colon in a flow collection. -/
def isBadAfterColon (c : Char) : Bool := isFlowSign c || c = '?'

/-- Whether a new word at this place would not belong to the text any more. -/
def endsAfterGap (around : Surroundings) (s : Source) : Bool :=
  (!around.inFlow && s.mark.column < around.leastColumn) || s.atDocumentMarker || s.startsWith '#'

/-- Reads on, behind some characters, the last of them first, and a gap. -/
def readFrom (around : Surroundings) (start : Mark) (done : List Char) (gap : Gap) :
    Source → Except SyntaxError PlainText
  | .stop m => .ok ⟨String.ofList done.reverse, gap.broken, .stop m⟩
  | .char m c rest =>
    let here := Source.char m c rest
    let finished : PlainText := ⟨String.ofList done.reverse, gap.broken, here⟩
    if isBlank c then
      if gap.broken && m.column < around.leastColumn && c = '\t' then
        .error (.problem .tabBelowIndentation m (some (.plainScalar, start)))
      else readFrom around start done (gap.addBlank c) rest
    else if isBreak c then readFrom around start done (gap.addBreak c) rest
    else if !gap.isEmpty && endsAfterGap around here then .ok finished
    else if around.inFlow && c = ':' && rest.head?.any isBadAfterColon then
      .error (.problem .colonInFlow m (some (.plainScalar, start)))
    else if (c = ':' && rest.atWordEnd) || (around.inFlow && isFlowSign c) then .ok finished
    else readFrom around start (c :: (gap.folded.reverse ++ done)) .empty rest

/-- Reads a plain text from the front. -/
def read (around : Surroundings) (s : Source) : Except SyntaxError PlainText :=
  readFrom around s.mark [] .empty s

end PlainText

end OpenstackAdmission.Yaml
