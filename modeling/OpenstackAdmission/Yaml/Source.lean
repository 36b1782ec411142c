/-!
# Text that knows its places

A `Source` is a text in which every character has a mark: how many bytes stand before it, and in which
line and column it is. A line break is one character here, however it is written; the kinds
of line breaks that a reader must keep apart stay apart.
-/

namespace OpenstackAdmission.Yaml

/-- A place in a text, counted from zero. -/
structure Mark where
  index : Nat
  line : Nat
  column : Nat
  deriving DecidableEq, Repr

namespace Mark

def origin : Mark := ⟨0, 0, 0⟩

/-- The place after a character of the same line, of some bytes. -/
def nextColumn (m : Mark) (width : Nat) : Mark := ⟨m.index + width, m.line, m.column + 1⟩

/-- The place after a line break of some bytes. -/
def nextLine (m : Mark) (width : Nat) : Mark := ⟨m.index + width, m.line + 1, 0⟩

/-- The first place of a text, which is never told. -/
def isFirst (m : Mark) : Bool := m.line = 0 && m.column = 0

/-- Lines and columns are told counting from one. -/
def text (m : Mark) : String := s!"line {m.line + 1} column {m.column + 1}"

/-- The place as the end of a message. -/
def suffix (m : Mark) : String := if m.isFirst then "" else " at " ++ m.text

end Mark

/-- Characters with their places, and the place of the end. -/
inductive Source where
  | stop (mark : Mark)
  | char (mark : Mark) (value : Char) (rest : Source)
  deriving Repr

/-- Line breaks that are written as a line feed when read. -/
def isPlainBreak (c : Char) : Bool := c = '\n' || c = '\r' || c = '\u0085'

/-- Line breaks, with the line and paragraph separators. -/
def isBreak (c : Char) : Bool := isPlainBreak c || c = '\u2028' || c = '\u2029'

/-- Spaces and tabs. -/
def isBlank (c : Char) : Bool := c = ' ' || c = '\t'

/-- The characters of names. -/
def isNameChar (c : Char) : Bool := c.isAlphanum || c = '_' || c = '-'

namespace Source

/-- The marks of a text that begins at a place. -/
def place : Mark → List Char → Source
  | m, [] => .stop m
  | m, '\r' :: '\n' :: cs => .char m '\n' (place (m.nextLine 2) cs)
  | m, c :: cs =>
    if isPlainBreak c then .char m '\n' (place (m.nextLine c.utf8Size) cs)
    else if isBreak c then .char m c (place (m.nextLine c.utf8Size) cs)
    else .char m c (place (m.nextColumn c.utf8Size) cs)

/-- A text from its first place. -/
def ofText (text : String) : Source := place .origin text.toList

def mark : Source → Mark
  | .stop m => m
  | .char m _ _ => m

/-- The place of the end. -/
def ending : Source → Mark
  | .stop m => m
  | .char _ _ rest => rest.ending

def length : Source → Nat
  | .stop _ => 0
  | .char _ _ rest => rest.length + 1

/-- The text without its first character. -/
def tail : Source → Source
  | .stop m => .stop m
  | .char _ _ rest => rest

/-- The text without some characters. -/
def drop : Nat → Source → Source
  | 0, s => s
  | n + 1, s => drop n s.tail

def head? : Source → Option Char
  | .stop _ => none
  | .char _ c _ => some c

/-- The character with some others before it. -/
def get? (s : Source) (n : Nat) : Option Char := (s.drop n).head?

def startsWith (s : Source) (c : Char) : Bool := s.head? = some c

/-- The characters from the front that satisfy a test, and the text behind them. -/
def span (test : Char → Bool) : Source → List Char × Source
  | .stop m => ([], .stop m)
  | .char m c rest =>
    if test c then
      let (cs, rest) := span test rest
      (c :: cs, rest)
    else ([], .char m c rest)

def dropWhile (test : Char → Bool) (s : Source) : Source := (s.span test).2

/-- The text ends here, or its line does. -/
def atLineEnd (s : Source) : Bool := s.head?.all isBreak

/-- A word ends here: at a blank, a line break or the end of the text. -/
def atWordEnd (s : Source) : Bool := s.head?.all fun c => isBlank c || isBreak c

/-- The text without the rest of its line, where a comment may stand. The break stays. -/
def dropComment (s : Source) : Source :=
  if s.startsWith '#' then s.dropWhile (!isBreak ·) else s

/-- A line that begins with three of these characters and then a blank. -/
def startsWithThree (s : Source) (c : Char) : Bool :=
  s.mark.column = 0 && s.startsWith c && s.get? 1 = some c && s.get? 2 = some c &&
    (s.drop 3).atWordEnd

/-- A line of hyphens or dots that separates documents begins here. -/
def atDocumentMarker (s : Source) : Bool := s.startsWithThree '-' || s.startsWithThree '.'

end Source

end OpenstackAdmission.Yaml
