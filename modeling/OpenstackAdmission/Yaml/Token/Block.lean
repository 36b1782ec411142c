import OpenstackAdmission.Yaml.SyntaxError

/-!
# Block texts

A block text begins behind a sign on a line of its own and goes on as far as its lines are indented. Its
indentation is that of its first line, unless the sign tells it. A literal text keeps its line breaks;
a folded one joins lines that do not begin with a blank. What becomes of the breaks at its end is told
with the sign too.
-/

namespace OpenstackAdmission.Yaml.BlockText

/-- What becomes of the line breaks at the end. -/
inductive Chomping where
  | strip
  | clip
  | keep
  deriving DecidableEq, Repr

/-- What is told with the sign of a block text. -/
structure Header where
  folded : Bool
  chomping : Chomping
  /-- How much deeper the text is indented than what surrounds it. -/
  indentation : Option Nat

def chomping? : Char → Option Chomping
  | '+' => some .keep
  | '-' => some .strip
  | _ => none

/-- The chomping sign at the front, if there is one. -/
def takeChomping (s : Source) : Option Chomping × Source :=
  match s.head?.bind chomping? with
  | some chomping => (some chomping, s.tail)
  | none => (none, s)

/-- The indentation at the front, if there is one. -/
def takeIndentation (start : Mark) (s : Source) : Except SyntaxError (Option Nat × Source) :=
  match s.head? with
  | some '0' => .error (.problem .zeroIndentation s.mark (some (.blockScalar, start)))
  | some c => if c.isDigit then .ok (some (c.toNat - 48), s.tail) else .ok (none, s)
  | none => .ok (none, s)

/-- Reads what is told with the sign, in either order, up to the end of the line. -/
def readHeader (s : Source) : Except SyntaxError (Header × Source) := do
  let start := s.mark
  let (before, rest) := takeChomping s.tail
  let (indentation, rest) ← takeIndentation start rest
  let (behind, rest) :=
    if before.isNone && indentation.isSome then takeChomping rest else (none, rest)
  let rest := (rest.dropWhile isBlank).dropComment
  if !rest.atLineEnd then
    throw (.problem .noCommentOrBreak rest.mark (some (.blockScalar, start)))
  let chomping := (before.orElse fun _ => behind).getD .clip
  return (⟨s.startsWith '>', chomping, indentation⟩, rest.tail)

/-- A text in the making. -/
structure Progress where
  /-- The characters so far, the last of them first. -/
  done : List Char
  /-- The break of the last line. -/
  lineBreak : Option Char
  /-- The breaks of empty lines since then, the last of them first. -/
  emptyBreaks : List Char
  /-- The last line begins with a blank. -/
  blankLine : Bool
  inLine : Bool
  /-- The indentation, once it is known. -/
  indentation : Option Nat
  /-- The greatest column that a line has reached so far with spaces alone. -/
  widest : Nat

namespace Progress

/-- The column is not yet that of the text. -/
def isBelow (p : Progress) (column : Nat) : Bool := p.indentation.all (column < ·)

/-- The beginning of another line, with the breaks before it. -/
def beginLine (p : Progress) (folded : Bool) (indentation : Nat) (c : Char) : Progress :=
  let joins := folded && p.lineBreak = some '\n' && !p.blankLine && !isBlank c
  let lineBreaks :=
    if joins then (if p.emptyBreaks = [] then [' '] else []) else p.lineBreak.toList
  { done := c :: (p.emptyBreaks ++ lineBreaks ++ p.done), lineBreak := none, emptyBreaks := [],
    blankLine := isBlank c, inLine := true, indentation := some indentation, widest := p.widest }

/-- The text at its end. -/
def text (p : Progress) : Chomping → String
  | .strip => String.ofList p.done.reverse
  | .clip => String.ofList (p.lineBreak.toList ++ p.done).reverse
  | .keep => String.ofList (p.emptyBreaks ++ p.lineBreak.toList ++ p.done).reverse

end Progress

/-- Reads the lines of a text, the columns of which are at least this one. -/
def readLines (header : Header) (leastColumn : Nat) (start : Mark) (p : Progress) :
    Source → Except SyntaxError (String × Source)
  | .stop m => .ok (p.text header.chomping, .stop m)
  | .char m c rest =>
    if p.inLine then
      if isBreak c then
        readLines header leastColumn start
          { p with lineBreak := some c, inLine := false, widest := 0 } rest
      else readLines header leastColumn start { p with done := c :: p.done } rest
    else if c = ' ' && p.isBelow m.column then readLines header leastColumn start p rest
    else
      let widest := max p.widest m.column
      if c = '\t' && p.isBelow m.column then
        .error (.problem .tabInIndentation m (some (.blockScalar, start)))
      else if isBreak c then
        readLines header leastColumn start
          { p with emptyBreaks := c :: p.emptyBreaks, widest } rest
      else
        let indentation := p.indentation.getD (max widest (max leastColumn 1))
        if m.column = indentation then
          readLines header leastColumn start (p.beginLine header.folded indentation c) rest
        else .ok (p.text header.chomping, .char m c rest)

/-- Reads a block text from its sign. The column is the least that a text may begin at. -/
def read (leastColumn : Nat) (s : Source) : Except SyntaxError (String × Source) := do
  let (header, rest) ← readHeader s
  let base := leastColumn - 1
  readLines header leastColumn s.mark
    { done := [], lineBreak := none, emptyBreaks := [], blankLine := false, inLine := false,
      indentation := header.indentation.map (base + ·), widest := 0 } rest

end OpenstackAdmission.Yaml.BlockText
