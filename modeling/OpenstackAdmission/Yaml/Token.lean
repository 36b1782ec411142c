import OpenstackAdmission.Yaml.SyntaxError

/-!
# Tokens of YAML

The signs and texts of a document, and the beginnings and ends of block collections, which no character
shows but the indentation.
-/

namespace OpenstackAdmission.Yaml

/-- Bytes of a tag: a tag may hold any bytes, as it may be written with escapes. -/
abbrev TagText := List UInt8

/-- A tag as it is written: a handle, which is empty or stands for a beginning, and the rest. -/
structure TagName where
  handle : TagText
  suffix : TagText
  deriving DecidableEq, Repr

inductive Token where
  | streamEnd
  | version (major minor : Nat)
  | tagShorthand (handle text : TagText)
  | documentStart
  | documentEnd
  | blockSequenceStart
  | blockMappingStart
  | blockEnd
  | flowSequenceStart
  | flowSequenceEnd
  | flowMappingStart
  | flowMappingEnd
  | hyphen
  | comma
  | key
  | value
  | alias (name : String)
  | anchor (name : String)
  | tag (name : TagName)
  /-- A text, which is plain if it stands without quotes and is no block. -/
  | scalar (text : String) (plain : Bool)
  deriving DecidableEq, Repr

/-- Tokens with their places, and how they end: at a place or with a fault. -/
structure TokenStream where
  tokens : List (Mark × Token)
  ending : Except SyntaxError Mark

namespace TokenStream

/-- The first token. Behind the last one stands the end of the text. -/
def peek (s : TokenStream) : Except SyntaxError (Mark × Token) :=
  match s.tokens with
  | t :: _ => .ok t
  | [] => s.ending.map (·, .streamEnd)

/-- The tokens without the first. -/
def rest (s : TokenStream) : TokenStream := { s with tokens := s.tokens.tail }

end TokenStream

end OpenstackAdmission.Yaml
