/-!
# Punycode

Labels of host names that begin with `xn--` hold a text in ASCII: its ASCII characters, a hyphen, and
then where the others stand. `Punycode.decode?` reads what follows the beginning.
-/

namespace OpenstackAdmission.Text.Punycode

/-- The value of a digit, of either case. -/
def digitValue? (c : Char) : Option Nat :=
  if 'a' ≤ c && c ≤ 'z' then some (c.toNat - 97)
  else if 'A' ≤ c && c ≤ 'Z' then some (c.toNat - 65)
  else if '0' ≤ c && c ≤ '9' then some (c.toNat - 22)
  else none

/-- The threshold at a place of a number of variable length. -/
def threshold (place bias : Nat) : Nat :=
  if place ≤ bias then 1 else if bias + 26 ≤ place then 26 else place - bias

/-- Divides a distance until it is small, counting 36 for each time. -/
def shrink (delta count : Nat) : Nat :=
  if h : delta ≤ 455 then count + 36 * delta / (delta + 38)
  else shrink (delta / 35) (count + 36)
termination_by delta
decreasing_by omega

/-- The bias for the next number after a distance. -/
def adapt (delta length : Nat) (first : Bool) : Nat :=
  let delta := if first then delta / 700 else delta / 2
  shrink (delta + delta / length) 0

/-- A number of variable length from the front, added to `i`, and the rest. -/
def number? (i weight place bias : Nat) : List Char → Option (Nat × List Char)
  | [] => none
  | c :: cs => do
    let digit ← digitValue? c
    let i := i + digit * weight
    if Nat.pow 2 32 ≤ i then none
    let t := threshold place bias
    if digit < t then some (i, cs)
    else if Nat.pow 2 32 ≤ weight * (36 - t) then none
    else number? i (weight * (36 - t)) (place + 36) bias cs

/-- Inserts the remaining characters. Each takes at least one character of the text, which `fuel`
counts. -/
def insertAll? (n i bias : Nat) (first : Bool) (output : List Char) :
    Nat → List Char → Option (List Char)
  | _, [] => some output
  | 0, _ => none
  | fuel + 1, cs => do
    let (next, rest) ← number? i 1 36 bias cs
    let length := output.length + 1
    let point := n + next / length
    let place := next % length
    if !point.isValidChar then none
    let output := output.take place ++ Char.ofNat point :: output.drop place
    insertAll? point (place + 1) (adapt (next - i) length first) false output fuel rest

/-- The text that a label stands for, given what follows its beginning. The last hyphen separates the ASCII
characters, of which there has to be one at least. -/
def decode? (cs : List Char) : Option (List Char) :=
  let reversed := cs.reverse
  let tail := (reversed.takeWhile (· != '-')).reverse
  let front := (reversed.dropWhile (· != '-')).drop 1 |>.reverse
  if cs.any (fun c => 0x7f < c.toNat) || (front = [] && cs.contains '-') then none
  else insertAll? 128 0 72 true front (tail.length + 1) tail

end OpenstackAdmission.Text.Punycode
