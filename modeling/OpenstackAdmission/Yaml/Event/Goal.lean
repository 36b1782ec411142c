import OpenstackAdmission.Yaml.Event

/-!
# Goals of reading

A goal says what is to be read next from tokens. Reading it gives an event, goals that are next, or both.
-/

namespace OpenstackAdmission.Yaml

/-- Shorthands of tags: handles and what they stand for. -/
abbrev Shorthands := List (TagText × TagText)

/-- What is to be read next. Collections keep the place where they began. -/
inductive Goal where
  /-- What a document holds; nothing may be written. -/
  | content
  /-- A value. Block collections may be allowed, also one at the column of its key. -/
  | node (block hanging : Bool)
  | blockItem (start : Mark)
  /-- An item of a sequence at the column of its key. -/
  | hangingItem
  | blockKey (start : Mark)
  | blockValue (start : Mark)
  | flowItem (start : Mark) (isFirst : Bool)
  /-- The key of a mapping that is an item of a flow sequence without braces. -/
  | pairKey
  | pairValue
  | pairEnd
  | flowKey (start : Mark) (isFirst : Bool)
  | flowValue (start : Mark)
  /-- The value of a key without a colon. -/
  | flowNoValue (start : Mark)
  deriving DecidableEq, Repr

/-- What a step reads: an event, unless only the agenda grew, the goals that are next, and the tokens
left. -/
structure Reading where
  event : Option (Mark × Event String)
  goals : List Goal
  rest : TokenStream

namespace Goal

/-- An event is read. -/
def emit (mark : Mark) (event : Event String) (goals : List Goal) (rest : TokenStream) :
    Except SyntaxError Reading := .ok ⟨some (mark, event), goals, rest⟩

/-- Goals are next, and no event is read. -/
def expand (goals : List Goal) (rest : TokenStream) : Except SyntaxError Reading :=
  .ok ⟨none, goals, rest⟩

/-- The tag that a name stands for. -/
def resolveTag (shorthands : Shorthands) (start mark : Mark) (name : TagName) :
    Except SyntaxError TagText :=
  if name.handle = [] then .ok name.suffix
  else
    match shorthands.find? (·.1 = name.handle) with
    | some (_, text) => .ok (text ++ name.suffix)
    | none => .error (.problem .unknownTagHandle mark (some (.node, start)))

/-- An anchor from the front, if there is one. -/
def takeAnchor (s : TokenStream) : Except SyntaxError (Option String × TokenStream) := do
  match ← s.peek with
  | (_, .anchor name) => return (some name, s.rest)
  | _ => return (none, s)

/-- A tag from the front, if there is one, with its place. -/
def takeTag (s : TokenStream) : Except SyntaxError (Option (Mark × TagName) × TokenStream) := do
  match ← s.peek with
  | (mark, .tag name) => return (some (mark, name), s.rest)
  | _ => return (none, s)

/-- An anchor that stands behind a tag and not before it. -/
def takeLateAnchor (early : Option String) (tag : Option (Mark × TagName)) (s : TokenStream) :
    Except SyntaxError (Option String × TokenStream) :=
  if early.isNone && tag.isSome then takeAnchor s else .ok (early, s)

/-- An anchor and a tag from the front, in either order, as far as there are any. A fault of the text
behind them is told before an unknown handle. -/
def takeProperties (shorthands : Shorthands) (start : Mark) (s : TokenStream) :
    Except SyntaxError (Properties × TokenStream) := do
  let (early, s) ← takeAnchor s
  let (tag, s) ← takeTag s
  let (anchor, s) ← takeLateAnchor early tag s
  let _ ← s.peek
  let text ← tag.mapM fun (mark, name) => resolveTag shorthands start mark name
  return (⟨anchor, text⟩, s)

/-- Reads a value whose properties are read. -/
def readContent (block hanging : Bool) (start : Mark) (p : Properties) (s : TokenStream) :
    Except SyntaxError Reading := do
  let (mark, token) ← s.peek
  match token with
  | .scalar text plain => emit start (.scalar p text plain) [] s.rest
  | .flowSequenceStart => emit start (.sequenceStart p) [.flowItem mark true] s.rest
  | .flowMappingStart => emit start (.mappingStart p) [.flowKey mark true] s.rest
  | .hyphen =>
    if hanging then emit start (.sequenceStart p) [.hangingItem] s else otherwise mark
  | .blockSequenceStart =>
    if block then emit start (.sequenceStart p) [.blockItem mark] s.rest else otherwise mark
  | .blockMappingStart =>
    if block then emit start (.mappingStart p) [.blockKey mark] s.rest else otherwise mark
  | _ => otherwise mark
where
  /-- Properties alone are a value that is not written. -/
  otherwise (mark : Mark) : Except SyntaxError Reading :=
    if p = .none then
      .error (.problem .noContent mark (some (if block then .blockNode else .flowNode, start)))
    else emit start (.scalar p "" true) [] s

/-- Reads a value. -/
def readNode (shorthands : Shorthands) (block hanging : Bool) (s : TokenStream) :
    Except SyntaxError Reading := do
  match ← s.peek with
  | (mark, .alias name) => emit mark (.alias name) [] s.rest
  | (start, _) =>
    let (properties, rest) ← takeProperties shorthands start s
    readContent block hanging start properties rest

/-- A value that the goal asks for, unless the next token shows that none is written. -/
def nodeUnless (isMissing : Token → Bool) (node next : Goal) (s : TokenStream) :
    Except SyntaxError Reading := do
  let (mark, token) ← s.peek
  if isMissing token then emit mark .missing [next] s else expand [node, next] s

/-- A value in a block collection, unless none is written. -/
def blockNodeUnless (isMissing : Token → Bool) (hanging : Bool) (next : Goal) (s : TokenStream) :
    Except SyntaxError Reading := nodeUnless isMissing (.node true hanging) next s

/-- A value in a flow collection, unless none is written. -/
def flowNodeUnless (isMissing : Token → Bool) (next : Goal) (s : TokenStream) :
    Except SyntaxError Reading := nodeUnless isMissing (.node false false) next s

def isBlockItemEnd (t : Token) : Bool := t = .hyphen || t = .blockEnd

def isBlockPairEnd (t : Token) : Bool := t = .key || t = .value || t = .blockEnd

def isHangingItemEnd (t : Token) : Bool := t = .hyphen || isBlockPairEnd t

def isFlowItemEnd (t : Token) : Bool := t = .comma || t = .flowSequenceEnd

def isFlowPairEnd (t : Token) : Bool := t = .comma || t = .flowMappingEnd

/-- A token behind which a document has no content. -/
def isContentEnd : Token → Bool
  | .version _ _ | .tagShorthand _ _ | .documentStart | .documentEnd | .streamEnd => true
  | _ => false

/-- The tokens behind the comma that has to stand between items. -/
def dropComma (isFirst : Bool) (last : Token) (fault : Mark → SyntaxError) (s : TokenStream) :
    Except SyntaxError TokenStream := do
  let (mark, token) ← s.peek
  if isFirst || token = last then .ok s
  else if token = .comma then .ok s.rest
  else .error (fault mark)

/-- Reads an item of a flow sequence, or its end. -/
def readFlowItem (start : Mark) (s : TokenStream) : Except SyntaxError Reading := do
  let (mark, token) ← s.peek
  match token with
  | .flowSequenceEnd => emit mark .sequenceEnd [] s.rest
  | .key => emit mark (.mappingStart .none) [.pairKey, .flowItem start false] s.rest
  | _ => expand [.node false false, .flowItem start false] s

/-- Reads a key of a flow mapping, or its end. -/
def readFlowKey (start : Mark) (s : TokenStream) : Except SyntaxError Reading := do
  let (mark, token) ← s.peek
  match token with
  | .flowMappingEnd => emit mark .mappingEnd [] s.rest
  | .key => flowNodeUnless (fun t => t = .value || isFlowPairEnd t) (.flowValue start) s.rest
  | _ => expand [.node false false, .flowNoValue start] s

/-- Reads what a goal asks for. -/
def read (shorthands : Shorthands) (goal : Goal) (s : TokenStream) :
    Except SyntaxError Reading := do
  let (mark, token) ← s.peek
  match goal with
  | .content =>
    if isContentEnd token then emit mark .missing [] s else expand [.node true false] s
  | .node block hanging => readNode shorthands block hanging s
  | .blockItem start =>
    match token with
    | .hyphen => blockNodeUnless isBlockItemEnd false (.blockItem start) s.rest
    | .blockEnd => emit mark .sequenceEnd [] s.rest
    | _ => throw (.problem .noHyphen mark (some (.blockSequence, start)))
  | .hangingItem =>
    match token with
    | .hyphen => blockNodeUnless isHangingItemEnd false .hangingItem s.rest
    | _ => emit mark .sequenceEnd [] s
  | .blockKey start =>
    match token with
    | .key => blockNodeUnless isBlockPairEnd true (.blockValue start) s.rest
    | .blockEnd => emit mark .mappingEnd [] s.rest
    | _ => throw (.problem .noKey mark (some (.blockMapping, start)))
  | .blockValue start =>
    match token with
    | .value => blockNodeUnless isBlockPairEnd true (.blockKey start) s.rest
    | _ => emit mark .missing [.blockKey start] s
  | .flowItem start isFirst =>
    let s ← dropComma isFirst .flowSequenceEnd
      (.problem .noCommaOrBracket · (some (.flowSequence, start))) s
    readFlowItem start s
  | .pairKey =>
    if token = .value || isFlowItemEnd token then emit mark .missing [.pairValue] s.rest
    else expand [.node false false, .pairValue] s
  | .pairValue =>
    if token = .value then flowNodeUnless isFlowItemEnd .pairEnd s.rest
    else emit mark .missing [.pairEnd] s
  | .pairEnd => emit mark .mappingEnd [] s
  | .flowKey start isFirst =>
    let s ← dropComma isFirst .flowMappingEnd
      (.problem .noCommaOrBrace · (some (.flowMapping, start))) s
    readFlowKey start s
  | .flowValue start =>
    if token = .value then flowNodeUnless isFlowPairEnd (.flowKey start false) s.rest
    else emit mark .missing [.flowKey start false] s
  | .flowNoValue start => emit mark .missing [.flowKey start false] s

end Goal

end OpenstackAdmission.Yaml
