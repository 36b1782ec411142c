import OpenstackAdmission.Text.Hexadecimal
import OpenstackAdmission.Yaml.Token

/-!
# Directives, names and tags

What stands before a document or a value and says something about it: the version of the language,
shorthands of tags, anchors, and tags.
-/

namespace OpenstackAdmission.Yaml

namespace TagName

/-- Characters of tags. In angle brackets and in directives there are some more. -/
def isTagChar (wide : Bool) (c : Char) : Bool :=
  isNameChar c || ";/?:@&=+$.%!~*'()".toList.contains c || (wide && ",[]".toList.contains c)

/-- The number of bytes of a character, told by the first of them. -/
def octetCount? (octet : Nat) : Option Nat :=
  if octet < 0x80 then some 1
  else if octet < 0xc0 then none
  else if octet < 0xe0 then some 2
  else if octet < 0xf0 then some 3
  else if octet < 0xf8 then some 4
  else none

/-- An octet written as a percent sign and two digits. -/
def octet? : Source → Option (Nat × Source)
  | .char _ '%' (.char _ a (.char _ b rest)) => do
    let a ← Text.hexValue? a
    let b ← Text.hexValue? b
    return (a * 16 + b, rest)
  | _ => none

/-- Octets behind the first one of a character. -/
def moreOctets (during : Activity × Mark) :
    Nat → Source → Except SyntaxError (TagText × Source)
  | 0, s => .ok ([], s)
  | n + 1, s =>
    match octet? s with
    | none => .error (.problem .badEscape s.mark (some during))
    | some (octet, rest) =>
      if octet < 0x80 || 0xc0 ≤ octet then
        .error (.problem .badTrailingOctet s.mark (some during))
      else do
        let (octets, rest) ← moreOctets during n rest
        return (UInt8.ofNat octet :: octets, rest)

/-- A character written with escapes. -/
def escaped (during : Activity × Mark) (s : Source) : Except SyntaxError (TagText × Source) :=
  match octet? s with
  | none => .error (.problem .badEscape s.mark (some during))
  | some (octet, rest) =>
    match octetCount? octet with
    | none => .error (.problem .badLeadingOctet s.mark (some during))
    | some count => do
      let (octets, rest) ← moreOctets during (count - 1) rest
      return (UInt8.ofNat octet :: octets, rest)

/-- The characters of a tag from the front. There are no more of them than there are steps. -/
def characters (wide : Bool) (during : Activity × Mark) :
    Nat → Source → Except SyntaxError (TagText × Source)
  | 0, s => .ok ([], s)
  | steps + 1, s =>
    match s.head? with
    | none => .ok ([], s)
    | some c =>
      if !isTagChar wide c then .ok ([], s)
      else do
        let (first, rest) ← if c = '%' then escaped during s else .ok (c.toString.toUTF8.toList, s.tail)
        let (others, rest) ← characters wide during steps rest
        return (first ++ others, rest)

/-- A text of a tag behind a beginning that was read already. Only the two together must not be
empty. A zero byte ends the text, and what is written behind it says nothing. -/
def readText (wide : Bool) (during : Activity × Mark) (before : List Char) (s : Source) :
    Except SyntaxError (TagText × Source) := do
  let (text, rest) ← characters wide during s.length s
  if before = [] && text = [] then throw (.problem .noTagText rest.mark (some during))
  return (((String.ofList (before.drop 1)).toUTF8.toList ++ text).takeWhile (· ≠ 0), rest)

/-- An exclamation mark, a name and maybe another mark. -/
def readHandle (during : Activity × Mark) (s : Source) :
    Except SyntaxError (List Char × Source) :=
  if !s.startsWith '!' then .error (.problem .noExclamationMark s.mark (some during))
  else
    let (name, rest) := s.tail.span isNameChar
    if rest.startsWith '!' then .ok ('!' :: name ++ ['!'], rest.tail) else .ok ('!' :: name, rest)

/-- The handle is closed by a mark of its own. -/
def isClosedHandle (handle : List Char) : Bool :=
  handle ≠ ['!'] && handle.getLast? = some '!'

/-- A tag in angle brackets, which stands for itself. -/
def readVerbatim (s : Source) : Except SyntaxError (TagName × Source) := do
  let start := s.mark
  let (text, rest) ← readText true (.tagPart, start) [] (s.drop 2)
  if !rest.startsWith '>' then
    throw (.problem .noClosingAngle rest.mark (some (.tag, start)))
  return (⟨[], text⟩, rest.tail)

private def exclamationMark : TagText := [0x21]

/-- A tag with a handle, or with one exclamation mark. The mark alone is a tag that stands for
itself. -/
def readShort (s : Source) : Except SyntaxError (TagName × Source) := do
  let start := s.mark
  let (handle, rest) ← readHandle (.tag, start) s
  if isClosedHandle handle then
    let (text, rest) ← readText false (.tagPart, start) [] rest
    return (⟨(String.ofList handle).toUTF8.toList, text⟩, rest)
  else
    let (text, rest) ← readText false (.tagPart, start) handle rest
    if text = [] then return (⟨[], exclamationMark⟩, rest)
    else return (⟨exclamationMark, text⟩, rest)

/-- Reads a tag from the front. -/
def read (inFlow : Bool) (s : Source) : Except SyntaxError (TagName × Source) := do
  let (tag, rest) ← if s.get? 1 = some '<' then readVerbatim s else readShort s
  if !(inFlow && rest.startsWith ',') && !rest.atWordEnd then
    throw (.problem .noBlankOrBreak rest.mark (some (.tag, s.mark)))
  return (tag, rest)

end TagName

/-- Reads the name of an anchor or an alias behind its sign. -/
def readName (activity : Activity) (s : Source) : Except SyntaxError (String × Source) :=
  let (name, rest) := s.tail.span isNameChar
  if name = [] || !(rest.atWordEnd || rest.head?.any ("?:,]\x7d%@\x60".toList.contains ·)) then
    .error (.problem .badName rest.mark (some (activity, s.mark)))
  else .ok (String.ofList name, rest)

namespace Directive

/-- A number of a version, of nine digits at most. -/
def readNumber (start : Mark) (s : Source) : Except SyntaxError (Nat × Source) :=
  let (digits, rest) := s.span Char.isDigit
  if digits = [] then
    .error (.problem .noVersionNumber s.mark (some (.versionDirective, start)))
  else if 9 < digits.length then
    .error (.problem .longVersionNumber (s.drop 9).mark (some (.versionDirective, start)))
  else .ok (digits.foldl (fun n c => n * 10 + (c.toNat - 48)) 0, rest)

/-- The version of the language. -/
def readVersion (start : Mark) (s : Source) : Except SyntaxError (Token × Source) := do
  let (major, rest) ← readNumber start (s.dropWhile isBlank)
  if !rest.startsWith '.' then
    throw (.problem .noVersionPoint rest.mark (some (.versionDirective, start)))
  let (minor, rest) ← readNumber start rest.tail
  return (.version major minor, rest)

/-- A shorthand of tags. -/
def readShorthand (start : Mark) (s : Source) : Except SyntaxError (Token × Source) := do
  let (handle, rest) ← TagName.readHandle (.tagDirectiveHandle, start) (s.dropWhile isBlank)
  if handle ≠ ['!'] && !TagName.isClosedHandle handle then
    throw (.problem .noExclamationMark rest.mark (some (.tagHandleOfDirective, start)))
  if !rest.head?.any isBlank then
    throw (.problem .noBlank rest.mark (some (.tagDirective, start)))
  let (text, rest) ← TagName.readText true (.tagDirectivePart, start) [] (rest.dropWhile isBlank)
  if !rest.atWordEnd then
    throw (.problem .noBlankOrBreak rest.mark (some (.tagDirective, start)))
  return (.tagShorthand (String.ofList handle).toUTF8.toList text, rest)

/-- Reads a directive, to which its whole line belongs. -/
def read (s : Source) : Except SyntaxError (Token × Source) := do
  let start := s.mark
  let (name, rest) := s.tail.span isNameChar
  if name = [] then
    throw (.problem .directiveWithoutName rest.mark (some (.directive, start)))
  if !rest.atWordEnd then
    throw (.problem .badDirectiveName rest.mark (some (.directive, start)))
  let (token, rest) ←
    if name = "YAML".toList then readVersion start rest
    else if name = "TAG".toList then readShorthand start rest
    else throw (.problem .unknownDirective rest.mark (some (.directive, start)))
  let rest := (rest.dropWhile isBlank).dropComment
  if !rest.atLineEnd then
    throw (.problem .noCommentOrBreak rest.mark (some (.directive, start)))
  return (token, rest.tail)

end Directive

end OpenstackAdmission.Yaml
