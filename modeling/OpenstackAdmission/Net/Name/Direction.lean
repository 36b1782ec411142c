import OpenstackAdmission.Text.Direction

/-!
# Names in both directions

If a name has characters that are written from right to left, every label has to read the same wherever
it stands: it has one direction, that of its first letter, and ends with a letter of that direction or
with a number.
-/

namespace OpenstackAdmission.Net.Name

open Text (Direction)

/-- Classes that a label of either direction may hold. -/
def isShared (d : Direction) : Bool :=
  d ∈ [.europeanNumber, .europeanSeparator, .commonSeparator, .europeanTerminator, .neutral,
    .invisible, .mark]

/-- The marks at the end of a label belong to the character before them. -/
def withoutMarks (ds : List Direction) : List Direction :=
  (ds.reverse.dropWhile (· = .mark)).reverse

/-- What may stand behind the first character of a label from left to right. -/
def isLeftTail (tail : List Direction) : Bool :=
  tail.all (fun d => d = .left || isShared d) &&
    tail.getLast?.all fun d => d = .left || d = .europeanNumber

/-- What may stand behind the first character of a label from right to left. Its numbers are all of one
kind. -/
def isRightTail (tail : List Direction) : Bool :=
  tail.all (fun d => d.isRightward || isShared d) &&
    (tail.getLast?.all fun d => d.isRightward || d = .europeanNumber) &&
    !(tail.contains .europeanNumber && tail.contains .arabicNumber)

/-- A label has one direction. -/
def hasDirection (label : List Direction) : Bool :=
  match label with
  | [] => true
  | first :: rest =>
    let tail := withoutMarks rest
    if first = .left then isLeftTail tail
    else (first = .right || first = .arabicLetter) && isRightTail tail

/-- The labels of a name, told by their texts, have directions if they need them. -/
def directionsAreFit (texts : List (List Char)) : Bool :=
  let labels := texts.map (·.map Direction.ofChar)
  !labels.any (·.any Direction.isRightward) || labels.all hasDirection

end OpenstackAdmission.Net.Name
