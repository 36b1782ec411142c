/-!
# Splitting texts

A text between signs, and the words of a text.
-/

namespace OpenstackAdmission.Text

/-- The parts between all occurrences of a character, one more than there are occurrences. -/
def splitAt (sign : Char) : List Char → List (List Char)
  | [] => [[]]
  | c :: cs =>
    match splitAt sign cs with
    | [] => [[c]]
    | part :: rest => if c = sign then [] :: part :: rest else (c :: part) :: rest

/-- The words of a text, between spaces and line breaks. -/
def words (text : String) : List (List Char) :=
  (text.toList.splitBy fun a b => a.isWhitespace == b.isWhitespace).filter
    (·.all (!·.isWhitespace))

end OpenstackAdmission.Text
