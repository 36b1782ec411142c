import OpenstackAdmission.Yaml.Token.Block
import OpenstackAdmission.Yaml.Token.Layout
import OpenstackAdmission.Yaml.Token.Plain
import OpenstackAdmission.Yaml.Token.Property
import OpenstackAdmission.Yaml.Token.Quoted

/-!
# The tokens of a text

`TokenStream.ofText` reads a text up to its end or its first fault. A fault hides the tokens before which a
key might still have opened, as what they are was not known yet. A control character is a fault of the
whole piece of the text that was taken in with it.
-/

namespace OpenstackAdmission.Yaml

/-- What the reading of a token leads to. -/
inductive Step where
  | more (layout : Layout) (rest : Source)
  | done (layout : Layout) (ending : Mark)

namespace Layout

/-- The next place where a token begins, and whether a key may begin there. Tabs are blanks where no key
can begin, and so is a byte order mark at the front of a line; a new line of a block collection can begin
with a key. -/
def toToken (inFlow inComment keyAllowed : Bool) : Source → Bool × Source
  | .stop m => (keyAllowed, .stop m)
  | .char m c rest =>
    if isBreak c then toToken inFlow false (keyAllowed || !inFlow) rest
    else if inComment then toToken inFlow true keyAllowed rest
    else if c = ' ' || (c = '\t' && (inFlow || !keyAllowed)) || (c = '\ufeff' && m.column = 0) then
      toToken inFlow false keyAllowed rest
    else if c = '#' then toToken inFlow true keyAllowed rest
    else (keyAllowed, .char m c rest)

/-- The end of the text counts as a line of its own. -/
def endMark (m : Mark) : Mark := if m.column = 0 then m else ⟨m.index, m.line + 1, 0⟩

def readEnd (l : Layout) (m : Mark) : Except SyntaxError Step := do
  let ending := endMark m
  let l ← (l.closeAll ending).dropCandidate ending
  return .done { l with keyAllowed := false } ending

def readDirective (l : Layout) (s : Source) : Except SyntaxError Step := do
  let l ← (l.closeAll s.mark).dropCandidate s.mark
  let (token, rest) ← Directive.read s
  return .more ({ l with keyAllowed := false }.push s.mark token) rest

def readMarker (l : Layout) (s : Source) (token : Token) : Except SyntaxError Step := do
  let l ← (l.closeAll s.mark).dropCandidate s.mark
  return .more ({ l with keyAllowed := false }.push s.mark token) (s.drop 3)

def readFlowStart (l : Layout) (s : Source) (token : Token) : Except SyntaxError Step := do
  let l ← l.saveCandidate s.mark
  return .more (l.enterFlow.push s.mark token) s.tail

def readFlowEnd (l : Layout) (s : Source) (token : Token) : Except SyntaxError Step := do
  let l ← l.dropCandidate s.mark
  return .more (l.leaveFlow.push s.mark token) s.tail

def readComma (l : Layout) (s : Source) : Except SyntaxError Step := do
  let l ← l.dropCandidate s.mark
  return .more ({ l with keyAllowed := true }.push s.mark .comma) s.tail

/-- Opens a block collection at a sign, where a key may begin too. -/
def openAtSign (l : Layout) (m : Mark) (token : Token) (problem : Problem) :
    Except SyntaxError Layout :=
  if l.inFlow then .ok l
  else if !l.keyAllowed then .error (.problem problem m none)
  else .ok (l.openBlock m token)

def readHyphen (l : Layout) (s : Source) : Except SyntaxError Step := do
  let l ← l.openAtSign s.mark .blockSequenceStart .entryNotAllowed
  let l ← l.dropCandidate s.mark
  return .more ({ l with keyAllowed := true }.push s.mark .hyphen) s.tail

def readKeySign (l : Layout) (s : Source) : Except SyntaxError Step := do
  let l ← l.openAtSign s.mark .blockMappingStart .keyNotAllowed
  let l ← l.dropCandidate s.mark
  return .more ({ l with keyAllowed := !l.inFlow }.push s.mark .key) s.tail

def readColon (l : Layout) (s : Source) : Except SyntaxError Step := do
  let l ← match l.candidate with
    | some c => pure (l.resolveKey c)
    | none =>
      let l ← l.openAtSign s.mark .blockMappingStart .valueNotAllowed
      pure { l with keyAllowed := !l.inFlow }
  return .more (l.push s.mark .value) s.tail

def readName (l : Layout) (s : Source) (activity : Activity) (token : String → Token) :
    Except SyntaxError Step := do
  let l ← l.saveCandidate s.mark
  let (name, rest) ← Yaml.readName activity s
  return .more ({ l with keyAllowed := false }.push s.mark (token name)) rest

def readTag (l : Layout) (s : Source) : Except SyntaxError Step := do
  let l ← l.saveCandidate s.mark
  let (tag, rest) ← TagName.read l.inFlow s
  return .more ({ l with keyAllowed := false }.push s.mark (.tag tag)) rest

def readBlock (l : Layout) (s : Source) : Except SyntaxError Step := do
  let l ← l.dropCandidate s.mark
  let (text, rest) ← BlockText.read l.leastColumn s
  return .more ({ l with keyAllowed := true }.push s.mark (.scalar text false)) rest

def readQuoted (l : Layout) (s : Source) : Except SyntaxError Step := do
  let l ← l.saveCandidate s.mark
  let (text, rest) ← QuotedText.read s
  return .more ({ l with keyAllowed := false }.push s.mark (.scalar text false)) rest

/-- A key may begin behind a plain text only in another line. -/
def readPlain (l : Layout) (s : Source) : Except SyntaxError Step := do
  let l ← l.saveCandidate s.mark
  let plain ← PlainText.read ⟨l.leastColumn, l.inFlow⟩ s
  return .more ({ l with keyAllowed := plain.broken }.push s.mark (.scalar plain.text true)) plain.rest

/-- Signs with which no plain text begins, unless they are hyphens, question marks or colons in front
of a word. -/
def isSign (c : Char) : Bool := "-?:,[]\x7b\x7d#&*!|>'\"%@\x60".toList.contains c

/-- Reads the token that begins with a character. -/
def readToken (l : Layout) (s : Source) (c : Char) : Except SyntaxError Step :=
  let alone := s.tail.atWordEnd
  if s.mark.column = 0 && c = '%' then l.readDirective s
  else if s.atDocumentMarker then
    l.readMarker s (if c = '-' then .documentStart else .documentEnd)
  else if c = '[' then l.readFlowStart s .flowSequenceStart
  else if c = '\x7b' then l.readFlowStart s .flowMappingStart
  else if c = ']' then l.readFlowEnd s .flowSequenceEnd
  else if c = '\x7d' then l.readFlowEnd s .flowMappingEnd
  else if c = ',' then l.readComma s
  else if c = '-' && alone then l.readHyphen s
  else if c = '?' && (l.inFlow || alone) then l.readKeySign s
  else if c = ':' && (l.inFlow || alone) then l.readColon s
  else if c = '*' then l.readName s .alias .alias
  else if c = '&' then l.readName s .anchor .anchor
  else if c = '!' then l.readTag s
  else if (c = '|' || c = '>') && !l.inFlow then l.readBlock s
  else if c = '\'' || c = '"' then l.readQuoted s
  else if (!isBlank c && !isSign c) || c = '-' || (!l.inFlow && (c = '?' || c = ':')) then
    l.readPlain s
  else .error (.problem .noToken s.mark (some (.nextToken, s.mark)))

/-- Reads one token, and the ends of the block collections before it. If something is at fault beyond the
text, no token is read of which the text might not hold the whole. -/
def readNext (beyond : Option SyntaxError) (l : Layout) (s : Source) : Except SyntaxError Step := do
  let (keyAllowed, s) := toToken l.inFlow false l.keyAllowed s
  if let (none, some fault) := (s.head?, beyond) then throw fault
  let l ← { l with keyAllowed }.dropStale s.mark
  let l := l.closeDeeper s.mark s.mark.column
  if let (none, some fault) := (s.get? 3, beyond) then throw fault
  match s.head? with
  | none => l.readEnd s.mark
  | some c => l.readToken s c

/-- Reads one token and forgets what no key can begin at behind it. -/
def step (beyond : Option SyntaxError) (l : Layout) (s : Source) : Except SyntaxError Step := do
  match ← l.readNext beyond s with
  | .more l rest => return .more (← l.dropStale rest.mark) rest
  | .done l ending => return .done (← l.dropStale ending) ending

/-- What a step leads to if something is at fault beyond the text, of which `ending` is the end: a step
that comes to the end, or fails there, meets that fault. -/
def heed (beyond : Option SyntaxError) (ending : Mark) (result : Except SyntaxError Step) :
    Except SyntaxError Step :=
  match beyond, result with
  | some fault, .ok (.more l rest) => if rest.mark = ending then .error fault else .ok (.more l rest)
  | some fault, .error (.problem what mark during) =>
    if mark = ending then .error fault else .error (.problem what mark during)
  | _, result => result

/-- Reads all tokens. Every step takes a character at least. -/
def readAll (beyond : Option SyntaxError) (ending : Mark) : Nat → Layout → Source → TokenStream
  | 0, l, s => ⟨l.tokens, .ok s.mark⟩
  | steps + 1, l, s =>
    match heed beyond ending (l.step beyond s) with
    | .error e => ⟨l.settledTokens, .error e⟩
    | .ok (.done l ending) => ⟨l.tokens, .ok ending⟩
    | .ok (.more l rest) => readAll beyond ending steps l rest

end Layout

/-- A character that a text may hold. -/
def isTextChar (c : Char) : Bool :=
  c = '\t' || c = '\n' || c = '\r' || c = '\u0085' || (' ' ≤ c && c ≤ '~') ||
    ('\u00a0' ≤ c && c ≠ '\ufffe' && c ≠ '\uffff')

/-- Texts are taken in so many bytes at a time, or fewer so that a character is not split. -/
def pieceSize : Nat := 16384

/-- The characters before the piece with the first character that no text may hold, and the number of bytes
before that character. `before` are the characters of the pieces before this one and `piece` those of this
one, the last one first; `offset` bytes have been taken in, of which this piece has `size`. -/
def controlCharacter? (before piece : List Char) (offset size : Nat) :
    List Char → Option (List Char × Nat)
  | [] => none
  | c :: cs =>
    let fits := size + c.utf8Size ≤ pieceSize
    let before := if fits then before else piece ++ before
    if isTextChar c then
      controlCharacter? before (c :: if fits then piece else []) (offset + c.utf8Size)
        ((if fits then size else 0) + c.utf8Size) cs
    else some (before.reverse, offset)

/-- The tokens of a text. A piece with a control character is not read at all. -/
def TokenStream.ofText (text : String) : TokenStream :=
  let (sound, fault) :=
    match controlCharacter? [] [] 0 0 text.toList with
    | some (before, offset) => (String.ofList before, some (.controlCharacter offset))
    | none => (text, none)
  let source := Source.ofText sound
  Layout.initial.readAll fault source.ending (source.length + 1) source

end OpenstackAdmission.Yaml
