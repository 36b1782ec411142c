import OpenstackAdmission.Text.Hexadecimal

/-!
# UUIDs

A UUID is written as 32 hexadecimal digits, or with hyphens after the 8th, 12th, 16th and 20th; the form
with hyphens may stand in braces or after `urn:uuid:` in letters of either case.
-/

namespace OpenstackAdmission.Text.Uuid

/-- 32 digits and nothing else. -/
def isPlain (cs : List Char) : Bool := cs.length = 32 && cs.all isHexDigit

/-- Groups of digits of these sizes with hyphens between them. -/
def isGrouped : List Nat → List Char → Bool
  | [], _ => false
  | [size], cs => cs.length = size && cs.all isHexDigit
  | size :: sizes, cs =>
    (cs.take size).length = size && (cs.take size).all isHexDigit &&
      match cs.drop size with
      | '-' :: rest => isGrouped sizes rest
      | _ => false

/-- The form with hyphens. -/
def isHyphenated (cs : List Char) : Bool := isGrouped [8, 4, 4, 4, 12] cs

/-- What stands in braces. -/
def unbraced? : List Char → Option (List Char)
  | '\x7b' :: rest => if rest.getLast? = some '\x7d' then some rest.dropLast else none
  | _ => none

/-- What stands after the name of the scheme, which may be written in letters of either case. -/
def withoutScheme? (cs : List Char) : Option (List Char) :=
  if (cs.take 9).map Char.toLower = "urn:uuid:".toList then some (cs.drop 9) else none

/-- The text is a UUID in one of the four forms. -/
def isUuid (s : String) : Bool :=
  let cs := s.toList
  isPlain cs || isHyphenated cs || (unbraced? cs).any isHyphenated ||
    (withoutScheme? cs).any isHyphenated

end OpenstackAdmission.Text.Uuid
