import OpenstackAdmission.Dict.Entries
import OpenstackAdmission.Yaml.Event.Agenda
import OpenstackAdmission.Yaml.Token.Stream

/-!
# The documents of a text

Documents stand between lines of hyphens or dots. The first needs no such line before it, nor does a text
need to hold a document. A fault ends the documents: the last one then holds the events before it.
-/

namespace OpenstackAdmission.Yaml

/-- What ends a document too early. -/
inductive DocumentFault where
  | malformed (error : SyntaxError)
  | unknownAnchor (mark : Mark)

/-- The events of a document. Anchors have numbers, and stand at positions among the events. -/
structure Document where
  events : List (Mark × Event Nat)
  anchors : List (Nat × Nat)
  fault : Option DocumentFault

namespace Document

/-! ## Directives -/

/-- Shorthands that need no directive. -/
def knownShorthands : Shorthands :=
  [("!", "!"), ("!!", "tag:yaml.org,2002:")].map fun (handle, text) =>
    (handle.toUTF8.toList, text.toUTF8.toList)

/-- The directives at the front and the tokens behind them. There is one version at most, and one
shorthand of each handle. -/
def takeDirectives (hasVersion : Bool) (shorthands : Shorthands) :
    List (Mark × Token) → Except SyntaxError (Shorthands × List (Mark × Token))
  | (mark, .version major minor) :: rest =>
    if hasVersion then .error (.problem .repeatedVersion mark none)
    else if major ≠ 1 || (minor ≠ 1 && minor ≠ 2) then .error (.problem .unknownVersion mark none)
    else takeDirectives true shorthands rest
  | (mark, .tagShorthand handle text) :: rest =>
    if shorthands.any (·.1 = handle) then .error (.problem .repeatedTagHandle mark none)
    else takeDirectives hasVersion (shorthands ++ [(handle, text)]) rest
  | tokens => .ok (shorthands, tokens)

/-- The tokens behind the ends of documents at the front. -/
def dropEnds (s : TokenStream) : TokenStream :=
  { s with tokens := s.tokens.dropWhile (·.2 = .documentEnd) }

/-- How a document begins: its shorthands, what is read first, and the tokens of it. -/
structure Opening where
  shorthands : Shorthands
  goal : Goal
  rest : TokenStream

/-- A document without a line of hyphens before it. -/
def isBare : Token → Bool
  | .version _ _ | .tagShorthand _ _ | .documentStart | .streamEnd => false
  | _ => true

/-- A document behind a line of hyphens, which may have directives before it. -/
def openExplicit (s : TokenStream) : Except SyntaxError Opening := do
  let (shorthands, tokens) ← takeDirectives false [] s.tokens
  let s := { s with tokens }
  match ← s.peek with
  | (_, .documentStart) => return ⟨shorthands ++ knownShorthands, .content, s.rest⟩
  | (mark, _) => throw (.problem .noDocumentStart mark none)

/-- The beginning of the next document, if there is one. -/
def open? (isFirst : Bool) (s : TokenStream) : Except SyntaxError (Option Opening) := do
  let s := if isFirst then s else dropEnds s
  match ← s.peek with
  | (_, .streamEnd) => return none
  | (_, token) =>
    if isFirst && isBare token then return some ⟨knownShorthands, .node true false, s⟩
    else return some (← openExplicit s)

/-- The tokens behind the end of a document. -/
def close (s : TokenStream) : Except SyntaxError TokenStream := do
  match ← s.peek with
  | (_, .documentEnd) => return s.rest
  | _ => return s

/-! ## Anchors -/

/-- Anchors while events are numbered: the number of each name, and the position of each number. -/
structure Anchors where
  numbers : List (String × Nat)
  positions : List (Nat × Nat)

/-- The anchor of an event. -/
def anchor? : Event String → Option String
  | .scalar p _ _ | .sequenceStart p | .mappingStart p => p.anchor
  | _ => none

/-- An anchor at a position gets the number of names before it; of one number the last position
counts. -/
def Anchors.add (a : Anchors) (position : Nat) : Option String → Anchors
  | none => a
  | some name =>
    { numbers := Entries.insert name a.numbers.length a.numbers
      positions := (a.numbers.length, position) :: a.positions }

/-- The event with its reference, if it has one that is known. -/
def numbered? (a : Anchors) : Event String → Option (Event Nat)
  | .alias name => (Entries.find? name a.numbers).map .alias
  | .scalar p text plain => some (.scalar p text plain)
  | .sequenceStart p => some (.sequenceStart p)
  | .sequenceEnd => some .sequenceEnd
  | .mappingStart p => some (.mappingStart p)
  | .mappingEnd => some .mappingEnd

/-- The document of events, which ends at the first alias that is not known. -/
def ofEventsFrom (a : Anchors) (position : Nat) (fault : Option DocumentFault) :
    List (Mark × Event String) → Document
  | [] => ⟨[], a.positions, fault⟩
  | (mark, event) :: rest =>
    let a := a.add position (anchor? event)
    match numbered? a event with
    | none => ⟨[], a.positions, some (.unknownAnchor mark)⟩
    | some event =>
      let document := ofEventsFrom a (position + 1) fault rest
      { document with events := (mark, event) :: document.events }

def ofEvents (events : List (Mark × Event String)) (fault : Option DocumentFault) : Document :=
  ofEventsFrom ⟨[], []⟩ 0 fault events

/-- A document that ends before it begins. -/
def broken (error : SyntaxError) : Document := ⟨[], [], some (.malformed error)⟩

/-- A document without content. -/
def empty : Document := ⟨[(.origin, .missing)], [], none⟩

/-! ## Documents -/

/-- The documents of tokens. Every document but a bare first one takes a token. -/
def ofTokens : Nat → Bool → TokenStream → List Document
  | 0, _, _ => []
  | steps + 1, isFirst, s =>
    match open? isFirst s with
    | .error e => [broken e]
    | .ok none => if isFirst then [empty] else []
    | .ok (some opening) =>
      match readEvents opening.shorthands [opening.goal] opening.rest with
      | (events, .error e) => [ofEvents events (some (.malformed e))]
      | (events, .ok rest) =>
        match close rest with
        | .error e => [ofEvents events (some (.malformed e))]
        | .ok rest => ofEvents events none :: ofTokens steps false rest

/-- The documents of a text. A text without any counts as one without content. -/
def ofText (text : String) : List Document :=
  let tokens := TokenStream.ofText text
  ofTokens (tokens.tokens.length + 2) true tokens

end Document

end OpenstackAdmission.Yaml
