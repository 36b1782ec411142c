import OpenstackAdmission.Yaml.Token

/-!
# What is open at a place of a text

Block collections begin and end with their indentation, and a key shows only when its colon comes. A
`Layout` knows the columns of the open block collections, and for every level of flow collections the
token that may turn out to begin a key. Tokens are only appended; what opens before a key is put into
the slot of its first token.
-/

namespace OpenstackAdmission.Yaml

/-- A token that may turn out to begin a key. -/
structure Candidate where
  mark : Mark
  /-- Nothing else than a key may stand here. -/
  required : Bool
  slot : Nat
  deriving DecidableEq, Repr

/-- A key stands within one line and 1024 bytes. -/
def Candidate.isStale (c : Candidate) (here : Mark) : Bool :=
  c.mark.line < here.line || c.mark.index + 1024 < here.index

/-- A token with what opens before it. -/
structure Slot where
  before : List (Mark × Token)
  token : Mark × Token

def Slot.tokens (s : Slot) : List (Mark × Token) := s.before ++ [s.token]

structure Layout where
  slots : Array Slot
  /-- The columns of the open block collections, the innermost first. -/
  columns : List Nat
  /-- What may begin a key at this level. -/
  candidate : Option Candidate
  /-- What may begin a key at the levels around this one, one for every open flow collection. -/
  outer : List (Option Candidate)
  /-- A key may begin at the next token. -/
  keyAllowed : Bool

namespace Layout

/-- The layout at the first place of a text. -/
def initial : Layout := ⟨#[], [], none, [], true⟩

def inFlow (l : Layout) : Bool := l.outer ≠ []

/-- The least column of what belongs to the innermost block collection. -/
def leastColumn (l : Layout) : Nat :=
  match l.columns with
  | [] => 0
  | column :: _ => column + 1

/-- Appends a token. -/
def push (l : Layout) (mark : Mark) (token : Token) : Layout :=
  { l with slots := l.slots.push ⟨[], mark, token⟩ }

/-- Appends some ends of block collections. -/
def pushEnds (l : Layout) (mark : Mark) : Nat → Layout
  | 0 => l
  | n + 1 => (l.push mark .blockEnd).pushEnds mark n

/-- Closes the block collections of greater columns. Inside a flow collection none is closed. -/
def closeDeeper (l : Layout) (mark : Mark) (column : Nat) : Layout :=
  if l.inFlow then l
  else
    { l.pushEnds mark (l.columns.takeWhile (column < ·)).length with
      columns := l.columns.dropWhile (column < ·) }

/-- Closes all block collections. -/
def closeAll (l : Layout) (mark : Mark) : Layout :=
  if l.inFlow then l else { l.pushEnds mark l.columns.length with columns := [] }

/-- A collection at this column would be a new one. -/
def opensAt (l : Layout) (column : Nat) : Bool := !l.inFlow && l.columns.all (· < column)

/-- Opens a block collection, unless it is already open. -/
def openBlock (l : Layout) (mark : Mark) (token : Token) : Layout :=
  if l.opensAt mark.column then { l.push mark token with columns := mark.column :: l.columns } else l

/-- No key begins at the last candidate. -/
def dropCandidate (l : Layout) (here : Mark) : Except SyntaxError Layout :=
  match l.candidate with
  | some c =>
    if c.required then .error (.problem .keyWithoutColon here (some (.simpleKey, c.mark)))
    else .ok { l with candidate := none }
  | none => .ok l

/-- The next token may begin a key, if a key is allowed here. -/
def saveCandidate (l : Layout) (here : Mark) : Except SyntaxError Layout :=
  if l.keyAllowed then do
    let required := !l.inFlow && l.columns.head? = some here.column
    let l ← l.dropCandidate here
    return { l with candidate := some ⟨here, required, l.slots.size⟩ }
  else .ok l

/-- Forgets the candidates that are too far away for a key to have begun there. -/
def dropStale (l : Layout) (here : Mark) : Except SyntaxError Layout :=
  let fresh := Option.filter (fun (c : Candidate) => !c.isStale here)
  match (l.outer ++ [l.candidate]).reduceOption.find? (fun c => c.isStale here && c.required) with
  | some c => .error (.problem .keyWithoutColon here (some (.simpleKey, c.mark)))
  | none => .ok { l with candidate := fresh l.candidate, outer := l.outer.map fresh }

/-- A flow collection begins. -/
def enterFlow (l : Layout) : Layout :=
  { l with outer := l.candidate :: l.outer, candidate := none, keyAllowed := true }

/-- A flow collection ends. -/
def leaveFlow (l : Layout) : Layout :=
  match l.outer with
  | [] => { l with keyAllowed := false }
  | candidate :: outer => { l with candidate, outer, keyAllowed := false }

/-- A colon shows that the candidate began a key. -/
def resolveKey (l : Layout) (c : Candidate) : Layout :=
  let opens := l.opensAt c.mark.column
  let before := if opens then [(c.mark, Token.blockMappingStart), (c.mark, .key)] else [(c.mark, .key)]
  { l with
    slots := l.slots.modify c.slot fun slot => { slot with before }
    columns := if opens then c.mark.column :: l.columns else l.columns
    candidate := none
    keyAllowed := false }

/-- All tokens. -/
def tokens (l : Layout) : List (Mark × Token) := l.slots.toList.flatMap Slot.tokens

/-- The tokens before which nothing more can open. -/
def settledTokens (l : Layout) : List (Mark × Token) :=
  let slots := (l.candidate :: l.outer).reduceOption.map Candidate.slot
  (l.slots.toList.take (slots.min?.getD l.slots.size)).flatMap Slot.tokens

end Layout

end OpenstackAdmission.Yaml
