import OpenstackAdmission.Json.Basic
import OpenstackAdmission.Decimal.Shortest
import OpenstackAdmission.Text.Quoted

/-!
# The text of a JSON value

Values are written without spaces. Texts escape the quote, the backslash and the control characters of
ASCII, the common ones by their short forms.
-/

namespace OpenstackAdmission

def Number.text : Number → String
  | .whole value => toString value
  | .fraction value => value.dataText

namespace Json

/-- A character inside a text. -/
def escapedChar (c : Char) : List Char :=
  if c = '"' then ['\\', '"']
  else if c = '\\' then ['\\', '\\']
  else if c = '\x08' then ['\\', 'b']
  else if c = '\x0c' then ['\\', 'f']
  else if c = '\n' then ['\\', 'n']
  else if c = '\r' then ['\\', 'r']
  else if c = '\t' then ['\\', 't']
  else if c.toNat < 0x20 then
    let hex := Text.hexDigits c.toNat
    ['\\', 'u'] ++ List.replicate (4 - hex.length) '0' ++ hex
  else [c]

def textString (s : String) : String :=
  String.ofList ('"' :: s.toList.flatMap escapedChar ++ ['"'])

mutual

/-- The text of a value. -/
def text : Json → String
  | .null => "null"
  | .bool true => "true"
  | .bool false => "false"
  | .num n => n.text
  | .str s => textString s
  | .arr [] => "[]"
  | .arr (item :: rest) => "[" ++ text item ++ itemsText rest ++ "]"
  | .obj [] => "\x7b\x7d"
  | .obj ((key, value) :: rest) =>
    "\x7b" ++ textString key ++ ":" ++ text value ++ entriesText rest ++ "\x7d"

/-- The items after the first one. -/
def itemsText : List Json → String
  | [] => ""
  | item :: rest => "," ++ text item ++ itemsText rest

/-- The entries after the first one. -/
def entriesText : List (String × Json) → String
  | [] => ""
  | (key, value) :: rest => "," ++ textString key ++ ":" ++ text value ++ entriesText rest

end

end Json

end OpenstackAdmission
