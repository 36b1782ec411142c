import OpenstackAdmission.Text.Hexadecimal
import OpenstackAdmission.Text.Split

/-!
# Tables of code points

A property of characters is kept as ranges of code points in ascending order. Tables are written as words
such as `41-5a:61`: the first and the last code point of a range, and what holds of them. A range of one
code point is written with one number, and what holds may be left out. `find?` looks for the range around a
code point by halving.
-/

namespace OpenstackAdmission.Text

/-- A range of code points, with both ends, and what holds of them. -/
structure CodeRange where
  first : Nat
  last : Nat
  value : List Char
  deriving DecidableEq, Repr

/-- The number that hexadecimal digits write. -/
def hexNumber (digits : List Char) : Nat :=
  digits.foldl (fun n c => n * 16 + (hexValue? c).getD 0) 0

/-- A range from its word. -/
def CodeRange.ofWord (word : List Char) : CodeRange :=
  let ends := word.takeWhile (· != ':')
  let first := ends.takeWhile (· != '-')
  let last := (ends.dropWhile (· != '-')).drop 1
  ⟨hexNumber first, hexNumber (if last = [] then first else last),
    (word.dropWhile (· != ':')).drop 1⟩

example : CodeRange.ofWord "41-5a:61".toList = ⟨0x41, 0x5a, ['6', '1']⟩ := by decide
example : CodeRange.ofWord "ad".toList = ⟨0xad, 0xad, []⟩ := by decide

/-- Ranges in ascending order, none of which meets another. -/
structure CodeTable where
  ranges : Array CodeRange

namespace CodeTable

/-- A table from its text. -/
def ofText (text : String) : CodeTable := ⟨((words text).map CodeRange.ofWord).toArray⟩

/-- The range around a code point, between two positions of a table. -/
def search (t : Array CodeRange) (n low high : Nat) (h : high ≤ t.size) : Option CodeRange :=
  if hlow : low < high then
    let middle := low + (high - low) / 2
    have hmiddle : middle < t.size := by omega
    if n < t[middle].first then search t n low middle (by omega)
    else if t[middle].last < n then search t n (middle + 1) high h
    else some t[middle]
  else none
termination_by high - low

/-- The range around a code point. -/
def find? (t : CodeTable) (n : Nat) : Option CodeRange :=
  search t.ranges n 0 t.ranges.size (Nat.le_refl _)

/-- The character lies in a range. -/
def holds (t : CodeTable) (c : Char) : Bool := (t.find? c.toNat).isSome

end CodeTable

end OpenstackAdmission.Text
