import OpenstackAdmission.Text.Combining
import OpenstackAdmission.Text.Composition

/-!
# The normal form of a text

Texts that look the same may be written in several ways: with composed characters or with their parts,
and with marks in one order or another. `normal` takes all characters apart, puts the marks in the order
of their classes, which only moves characters, and composes again what can be composed.
-/

namespace OpenstackAdmission.Text

/-- The parts of a character, taken apart so many times. -/
def decomposed : Nat → Char → List Char
  | 0, c => [c]
  | times + 1, c =>
    match parts? c with
    | some (a, b) => decomposed times a ++ [b]
    | none => [c]

/-- Puts a character before others whose marks are in order, behind the marks of smaller classes if it is a
mark itself. -/
def placeMark (c : Char) : List Char → List Char
  | [] => [c]
  | d :: rest =>
    if 0 < combiningClass d && combiningClass d < combiningClass c then d :: placeMark c rest
    else c :: d :: rest

/-- The characters with all marks in the order of their classes. -/
def ordered (cs : List Char) : List Char := cs.foldr placeMark []

/-- Composes the first character of a text with what stands behind it, and so on. `between` are the marks
behind the first character with which it was not composed, the last one first: one of them of the same or a
greater class keeps a character away. -/
def composeFrom (first : Char) (between : List Char) : List Char → List Char
  | [] => first :: between.reverse
  | c :: rest =>
    let isFree := between.head?.all fun mark => combiningClass mark < combiningClass c
    match if isFree then composed? first c else none with
    | some whole => composeFrom whole between rest
    | none =>
      if combiningClass c = 0 then first :: between.reverse ++ composeFrom c [] rest
      else composeFrom first (c :: between) rest

/-- The normal form. No character is composed of more than four others. -/
def normal (cs : List Char) : List Char :=
  match ordered (cs.flatMap (decomposed 3)) with
  | [] => []
  | first :: rest => composeFrom first [] rest

end OpenstackAdmission.Text
