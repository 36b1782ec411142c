import OpenstackAdmission.Text.Hexadecimal
import OpenstackAdmission.Yaml.SyntaxError
import OpenstackAdmission.Yaml.Token.Folding

/-!
# Quoted texts

A text in single quotes holds all characters as they are, and a quote as two. In double quotes a backslash
begins an escape: of one letter, of a code point in hexadecimal digits, or of a line break, which then
counts for nothing.
-/

namespace OpenstackAdmission.Yaml.QuotedText

/-- What a letter behind a backslash stands for: a character, or a number of digits to come. -/
inductive Escape where
  | char (value : Char)
  | digits (count : Nat)

def escape? : Char → Option Escape
  | '0' => some (.char '\x00')
  | 'a' => some (.char '\x07')
  | 'b' => some (.char '\x08')
  | 't' => some (.char '\t')
  | '\t' => some (.char '\t')
  | 'n' => some (.char '\n')
  | 'v' => some (.char '\x0b')
  | 'f' => some (.char '\x0c')
  | 'r' => some (.char '\r')
  | 'e' => some (.char '\x1b')
  | ' ' => some (.char ' ')
  | '"' => some (.char '"')
  | '/' => some (.char '/')
  | '\\' => some (.char '\\')
  | 'N' => some (.char '\u0085')
  | '_' => some (.char '\u00a0')
  | 'L' => some (.char '\u2028')
  | 'P' => some (.char '\u2029')
  | 'x' => some (.digits 2)
  | 'u' => some (.digits 4)
  | 'U' => some (.digits 8)
  | _ => none

/-- What the next character belongs to. -/
inductive Expected where
  | text
  /-- A letter behind a backslash at a place. -/
  | letter (backslash : Mark)
  /-- Digits of a code point that began at a place, and their value so far. -/
  | digits (left : Nat) (value : Nat) (first : Mark)
  /-- The second of two single quotes. -/
  | quote

/-- The character of a code point; surrogates are none. -/
def codePoint? (n : Nat) : Option Char := if n.isValidChar then some (Char.ofNat n) else none

/-- Reads on, behind some characters, the last of them first, and a gap. -/
def readFrom (single : Bool) (start : Mark) (done : List Char) (gap : Gap) (expected : Expected) :
    Source → Except SyntaxError (String × Source)
  | .stop m =>
    match expected with
    | .letter backslash =>
      .error (.problem .unknownEscape backslash (some (.quotedScalarPart, start)))
    | .digits _ _ first =>
      .error (.problem .badHexDigit first (some (.quotedScalarPart, start)))
    | _ => .error (.problem .endOfText m (some (.quotedScalar, start)))
  | .char m c rest =>
    let here := Source.char m c rest
    match expected with
    | .letter backslash =>
      if isBreak c then readFrom single start done .joined .text rest
      else
        match escape? c with
        | some (.char value) => readFrom single start (value :: done) .empty .text rest
        | some (.digits count) => readFrom single start done .empty (.digits count 0 rest.mark) rest
        | none => .error (.problem .unknownEscape backslash (some (.quotedScalarPart, start)))
    | .digits left value first =>
      match Text.hexValue? c with
      | none => .error (.problem .badHexDigit first (some (.quotedScalarPart, start)))
      | some digit =>
        let value := value * 16 + digit
        if left ≤ 1 then
          match codePoint? value with
          | some c => readFrom single start (c :: done) .empty .text rest
          | none => .error (.problem .badCodePoint first (some (.quotedScalarPart, start)))
        else readFrom single start done .empty (.digits (left - 1) value first) rest
    | .quote => readFrom single start ('\'' :: done) .empty .text rest
    | .text =>
      if isBlank c then readFrom single start done (gap.addBlank c) .text rest
      else if isBreak c then readFrom single start done (gap.addBreak c) .text rest
      else if here.atDocumentMarker then
        .error (.problem .documentMarkerInside m (some (.quotedScalar, start)))
      else
        let done := gap.folded.reverse ++ done
        if single && c = '\'' && rest.startsWith '\'' then
          readFrom single start done .empty .quote rest
        else if c = (if single then '\'' else '"') then
          .ok (String.ofList done.reverse, rest)
        else if !single && c = '\\' then readFrom single start done .empty (.letter m) rest
        else readFrom single start (c :: done) .empty .text rest

/-- Reads a text from its opening quote. -/
def read (s : Source) : Except SyntaxError (String × Source) :=
  readFrom (s.startsWith '\'') s.mark [] .empty .text s.tail

end OpenstackAdmission.Yaml.QuotedText
