import OpenstackAdmission.Net.Name.Mapping
import OpenstackAdmission.Text.Combining
import OpenstackAdmission.Text.Joining
import OpenstackAdmission.Text.Normal
import OpenstackAdmission.Text.Punycode

/-!
# Labels of names

A name consists of labels with points between them. A label that begins with `xn--` stands for a text with
other characters than those of ASCII; any other label is its own text. `Label.text?` gives the text, and
`Label.isFit` tells whether a name may have such a label.
-/

namespace OpenstackAdmission.Net.Name

/-- The characters that count, unless one is not for names. -/
def mapped? (cs : List Char) : Option (List Char) :=
  (cs.mapM image?).map fun images => Text.normal images.flatten

/-- The ASCII characters that no name of a URL may hold. -/
def isForbidden (c : Char) : Bool :=
  c.toNat ≤ 0x20 || c.toNat = 0x7f || c ∈ "%#/:<>?@[\\]^|".toList

namespace Label

def isAscii (c : Char) : Bool := c.toNat < 0x80

/-- The text that a label writes in ASCII. It must need that form, and no other label of counting
characters may stand for it. -/
def encodedText? (tail : List Char) : Option (List Char) := do
  if tail = [] || tail.getLast? = some '-' || 2000 < tail.length then none
  let text ← Text.Punycode.decode? tail
  if text.all isAscii || mapped? text ≠ some text then none
  return text

/-- The text of a label of counting characters. One that has to be written in ASCII must not be too
long for it. -/
def text? (label : List Char) : Option (List Char) :=
  match label with
  | 'x' :: 'n' :: '-' :: '-' :: tail => encodedText? tail
  | label => if !label.all isAscii && 1000 < label.length then none else some label

/-- The first of some characters that is not transparent joins, in a sense. -/
def joins (test : Text.Joining → Bool) (cs : List Char) : Bool :=
  ((cs.map Text.Joining.ofChar).find? (· ≠ .transparent)).any test

/-- Joiners are allowed behind a sign that takes the vowel; a non-joiner also between letters that would
join. `before` are the characters before the others, the last one first. -/
def joinersAreFit (before : List Char) : List Char → Bool
  | [] => true
  | c :: rest =>
    let isFit := (c ≠ '\u200c' && c ≠ '\u200d') || before.head?.any Text.isVirama ||
      (c = '\u200c' && joins (·.joinsBehind) before && joins (·.joinsBefore) rest)
    isFit && joinersAreFit (c :: before) rest

/-- A name may have a label of this text. -/
def isFit (text : List Char) : Bool :=
  !text.head?.any Text.isMark && text.all (!isForbidden ·) && joinersAreFit [] text

end Label

end OpenstackAdmission.Net.Name
