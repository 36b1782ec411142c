import OpenstackAdmission.Text.Hexadecimal
import OpenstackAdmission.Text.Printable

/-!
# Quoted text

Texts stand in messages between double quotes, with everything that a reader could not see or could
mistake written as an escape.
-/

namespace OpenstackAdmission.Text

/-- A character inside quoted text: the usual short escapes, then the code point of everything that
does not show as itself. -/
def escaped : Char → List Char
  | '"' => ['\\', '"']
  | '\\' => ['\\', '\\']
  | '\n' => ['\\', 'n']
  | '\r' => ['\\', 'r']
  | '\t' => ['\\', 't']
  | '\x00' => ['\\', '0']
  | c => if printable c then [c] else ['\\', 'u', '\x7b'] ++ hexDigits c.toNat ++ ['\x7d']

/-- A text between double quotes. -/
def quoted (s : String) : String :=
  String.ofList ('"' :: s.toList.flatMap escaped ++ ['"'])

/-- The last of several texts is joined with "and", the others with commas. -/
def enumerated : List String → String
  | [] => ""
  | [a] => a
  | [a, b] => a ++ " and " ++ b
  | a :: rest => a ++ ", " ++ enumerated rest

end OpenstackAdmission.Text
