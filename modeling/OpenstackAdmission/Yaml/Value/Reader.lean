import OpenstackAdmission.Text.Utf8
import OpenstackAdmission.Yaml.Document
import OpenstackAdmission.Yaml.Scalar
import OpenstackAdmission.Yaml.Value.Path

/-!
# The value of a document

`Document.value` reads the events of a document. A fault of the document shows only where the events end, so
what is wrong with a value before it comes first. Aliases are read where they stand, as if what they
refer to stood there; so that a document that refers to itself has no value, collections are nested only
so deep and aliases are read only so often.
-/

namespace OpenstackAdmission.Yaml

/-- What is wrong with a value. -/
inductive ValueFault where
  | scalar (fault : ScalarFault)
  /-- A key that equals one before it, as it was written first. -/
  | repeatedKey (first : Value)

def ValueFault.message : ValueFault → String
  | .scalar fault => fault.message
  | .repeatedKey first => "duplicate entry " ++ first.keyDescription

/-- Why a document has no value. -/
inductive ValueError where
  | document (fault : DocumentFault)
  | rejected (fault : ValueFault) (path : Path) (mark : Mark)
  | tooDeep (mark : Mark)
  | tooManyAliases
  | endOfEvents

def ValueError.message : ValueError → String
  | .document (.malformed error) => error.message
  | .document (.unknownAnchor mark) => "unknown anchor" ++ mark.suffix
  | .rejected fault path mark => path.beforeMessage ++ fault.message ++ mark.suffix
  | .tooDeep mark => "recursion limit exceeded" ++ mark.suffix
  | .tooManyAliases => "repetition limit exceeded"
  | .endOfEvents => "EOF while parsing a value"

namespace Document

/-- The events of a document from some position on. -/
abbrev Events := List (Mark × Event Nat)

/-- How deep collections may be nested. -/
def depthLimit : Nat := 128

/-- How often aliases may be read in all. -/
def aliasLimit (d : Document) : Nat := d.events.length * 100

/-- What the end of the events means. -/
def endError (d : Document) : ValueError :=
  match d.fault with
  | some fault => .document fault
  | none => .endOfEvents

/-- The name of a tag of one's own, which begins with an exclamation mark. -/
def tagName? : Option TagText → Option String
  | some (0x21 :: rest) => (Text.Utf8.decode (if rest = [] then [0x21] else rest)).toOption
  | _ => none

/-- The text of a tag. -/
def tagText? (tag : Option TagText) : Option String :=
  tag.bind fun bytes => (Text.Utf8.decode bytes).toOption

/-- The value of a text. -/
def scalarValue (p : Properties) (text : String) (plain : Bool) : Except ScalarFault Value :=
  match p.tag with
  | none => if plain then Scalar.ofPlain text else .ok (.string text)
  | some tag =>
    match tagName? p.tag with
    | some name =>
      (if plain then Scalar.ofPlain text else .ok (.string text)).map (.tagged name)
    | none =>
      match (tagText? p.tag).bind (Scalar.ofTagged · text) with
      | some value => value
      | none => if tag.head? = some 0x21 && plain then Scalar.ofPlain text else .ok (.string text)

/-- A collection with its tag, if it has one of its own. -/
def withTag (p : Properties) (v : Value) : Value :=
  match tagName? p.tag with
  | some name => .tagged name v
  | none => v

/-- What was read: a value or more, the number of aliases read so far, and the events left, which are
fewer than before. -/
structure Progress (α : Type) (before : Events) where
  value : α
  aliases : Nat
  rest : Events
  shorter : rest.length < before.length

/-- The place of a value behind its key. -/
def entryPath (path : Path) : Event Nat → Path
  | .scalar _ text _ => .entry path text
  | _ => .unnamed path

mutual

/-- Reads a value. -/
def readValue (d : Document) (depth : Nat) (path : Path) (aliases : Nat) :
    (events : Events) → Except ValueError (Progress Value events)
  | [] => .error d.endError
  | (mark, .alias number) :: rest =>
    if d.aliasLimit < aliases + 1 then .error .tooManyAliases
    else
      match (d.anchors.find? (·.1 = number)).map fun (_, position) => d.events.drop position with
      | some ((targetMark, target) :: behind) => do
        let (value, aliases, _) ← readNode d depth path (aliases + 1) targetMark target behind
        return ⟨value, aliases, rest, by simp⟩
      | _ => .error (.document (.unknownAnchor mark))
  | (mark, event) :: rest => do
    let (value, aliases, ⟨rest, h⟩) ← readNode d depth path aliases mark event rest
    return ⟨value, aliases, rest, by simp; omega⟩
termination_by events => (depth, 1, events.length)

/-- Reads a value from its first event, which is no alias, and the events behind it. -/
def readNode (d : Document) (depth : Nat) (path : Path) (aliases : Nat) (mark : Mark)
    (event : Event Nat) (behind : Events) :
    Except ValueError (Value × Nat × { rest : Events // rest.length ≤ behind.length }) :=
  match event with
  | .scalar p text plain =>
    match scalarValue p text plain with
    | .ok value => .ok (value, aliases, ⟨behind, Nat.le_refl _⟩)
    | .error fault => .error (.rejected (.scalar fault) path mark)
  | .sequenceStart p =>
    match depth with
    | 0 => .error (.tooDeep mark)
    | depth + 1 => do
      let ⟨items, aliases, rest, h⟩ ← readItems d depth path 0 aliases behind
      return (withTag p (.sequence items), aliases, ⟨rest, Nat.le_of_lt h⟩)
  | .mappingStart p =>
    match depth with
    | 0 => .error (.tooDeep mark)
    | depth + 1 => do
      let ⟨entries, aliases, rest, h⟩ ← readEntries d depth path mark [] aliases behind
      return (withTag p (.mapping entries), aliases, ⟨rest, Nat.le_of_lt h⟩)
  | _ => .error d.endError
termination_by (depth, 0, behind.length)

/-- Reads the items of a sequence from a position on, and its end. -/
def readItems (d : Document) (depth : Nat) (path : Path) (index : Nat) (aliases : Nat) :
    (events : Events) → Except ValueError (Progress (List Value) events)
  | [] => .error d.endError
  | (_, .sequenceEnd) :: rest => .ok ⟨[], aliases, rest, by simp⟩
  | events => do
    let ⟨item, aliases, rest, h⟩ ← readValue d depth (.item path index) aliases events
    let ⟨items, aliases, rest, h'⟩ ← readItems d depth path (index + 1) aliases rest
    return ⟨item :: items, aliases, rest, Nat.lt_trans h' h⟩
termination_by events => (depth, 2, events.length)

/-- Reads the entries of a mapping behind those with some keys, and its end. -/
def readEntries (d : Document) (depth : Nat) (path : Path) (start : Mark) (keys : List Value)
    (aliases : Nat) : (events : Events) → Except ValueError (Progress (List (Value × Value)) events)
  | [] => .error d.endError
  | (_, .mappingEnd) :: rest => .ok ⟨[], aliases, rest, by simp⟩
  | (mark, event) :: behind => do
    let ⟨key, aliases, rest, h⟩ ← readValue d depth path aliases ((mark, event) :: behind)
    if let some first := keys.find? (·.same key) then
      throw (.rejected (.repeatedKey first) path start)
    let ⟨value, aliases, rest, h'⟩ ← readValue d depth (entryPath path event) aliases rest
    have hboth := Nat.lt_trans h' h
    let ⟨entries, aliases, rest, h''⟩ ← readEntries d depth path start (key :: keys) aliases rest
    return ⟨(key, value) :: entries, aliases, rest, Nat.lt_trans h'' hboth⟩
termination_by events => (depth, 2, events.length)

end

/-- The value of a document. -/
def value (d : Document) : Except ValueError Value := do
  let read ← readValue d depthLimit .root 0 d.events
  match d.fault with
  | some fault => throw (.document fault)
  | none => return read.value

end Document

end OpenstackAdmission.Yaml
