import OpenstackAdmission.Json.Basic
import OpenstackAdmission.Text.Hexadecimal

/-!
# Reading JSON

`Json.parse?` reads one value from a text. Whole numbers that fit a word of 64 bits stay whole, and all
others become the nearest binary fraction. Entries of objects are put in the order of their keys, and
of several entries with one key the last counts.
-/

namespace OpenstackAdmission.Json.Reader

/-- The four characters that JSON skips between its signs. -/
def isSpace (c : Char) : Bool := c = ' ' || c = '\n' || c = '\r' || c = '\t'

def skipSpace (cs : List Char) : List Char := cs.dropWhile isSpace

def digitValue (c : Char) : Nat := c.toNat - 48

def digitsValue (cs : List Char) : Nat := cs.foldl (fun n c => n * 10 + digitValue c) 0

/-- Four hexadecimal digits from the front. -/
def hexUnit? : List Char → Option (Nat × List Char)
  | a :: b :: c :: d :: rest => do
    let a ← Text.hexValue? a
    let b ← Text.hexValue? b
    let c ← Text.hexValue? c
    let d ← Text.hexValue? d
    return (((a * 16 + b) * 16 + c) * 16 + d, rest)
  | _ => none

/-- A code point given by one unit, or by a high and a low surrogate. -/
def codePoint? (cs : List Char) : Option (Char × List Char) := do
  let (unit, rest) ← hexUnit? cs
  if 0xdc00 ≤ unit && unit ≤ 0xdfff then none
  else if 0xd800 ≤ unit && unit ≤ 0xdbff then
    match rest with
    | '\\' :: 'u' :: rest =>
      let (low, rest) ← hexUnit? rest
      if 0xdc00 ≤ low && low ≤ 0xdfff then
        return (Char.ofNat (0x10000 + (unit - 0xd800) * 1024 + (low - 0xdc00)), rest)
      else none
    | _ => none
  else return (Char.ofNat unit, rest)

/-- The characters up to the closing quote, and what follows it. -/
def textBody? : Nat → List Char → Option (List Char × List Char)
  | 0, _ => none
  | _, [] => none
  | fuel + 1, c :: rest =>
    let more (c : Char) (rest : List Char) :=
      (textBody? fuel rest).map fun (cs, rest) => (c :: cs, rest)
    if c = '"' then some ([], rest)
    else if c = '\\' then
      match rest with
      | 'u' :: rest => (codePoint? rest).bind fun (c, rest) => more c rest
      | 'b' :: rest => more '\x08' rest
      | 'f' :: rest => more '\x0c' rest
      | 'n' :: rest => more '\n' rest
      | 'r' :: rest => more '\r' rest
      | 't' :: rest => more '\t' rest
      | c :: rest => if c = '"' || c = '\\' || c = '/' then more c rest else none
      | [] => none
    else if c.toNat < 0x20 then none
    else more c rest

/-- A number from its parts: sign, digits before and after the point, and the power of ten. A part that
is not there makes the number whole. -/
def number? (negative : Bool) (whole : List Char) (fraction : Option (List Char))
    (power : Option Int) : Option Number :=
  let n := digitsValue whole
  let signed : Int := if negative then -n else n
  match fraction, power with
  | none, none =>
    if negative && n = 0 then some (.fraction (Binary64.zero true))
    else if Number.isWordSized signed then some (.whole signed)
    else (Binary64.ofInt? signed).map .fraction
  | _, _ =>
    let places := fraction.getD []
    let digits := digitsValue (whole ++ places)
    (Binary64.ofDecimal? negative digits (power.getD 0 - places.length)).map .fraction

/-- The digits after the point, if there is a point. -/
def fractionPart? : List Char → Option (Option (List Char) × List Char)
  | '.' :: rest =>
    let places := rest.takeWhile Char.isDigit
    if places = [] then none else some (some places, rest.dropWhile Char.isDigit)
  | cs => some (none, cs)

/-- The power of ten, if there is one. -/
def powerPart? : List Char → Option (Option Int × List Char)
  | c :: rest =>
    if c = 'e' || c = 'E' then
      let (negative, rest) := match rest with
        | '-' :: rest => (true, rest)
        | '+' :: rest => (false, rest)
        | rest => (false, rest)
      let digits := rest.takeWhile Char.isDigit
      if digits = [] then none
      else
        let n : Int := digitsValue digits
        some (some (if negative then -n else n), rest.dropWhile Char.isDigit)
    else some (none, c :: rest)
  | [] => some (none, [])

/-- A number from the front. A number of several digits does not begin with zero. -/
def numberText? (cs : List Char) : Option (Number × List Char) := do
  let (negative, cs) := match cs with
    | '-' :: rest => (true, rest)
    | cs => (false, cs)
  let whole := cs.takeWhile Char.isDigit
  if whole = [] || (whole.head? = some '0' && whole.length ≠ 1) then none
  let (fraction, rest) ← fractionPart? (cs.dropWhile Char.isDigit)
  let (power, rest) ← powerPart? rest
  let n ← number? negative whole fraction power
  return (n, rest)

mutual

/-- A value from the front. -/
def value? : Nat → List Char → Option (Json × List Char)
  | 0, _ => none
  | fuel + 1, cs =>
    match skipSpace cs with
    | 'n' :: 'u' :: 'l' :: 'l' :: rest => some (.null, rest)
    | 't' :: 'r' :: 'u' :: 'e' :: rest => some (.bool true, rest)
    | 'f' :: 'a' :: 'l' :: 's' :: 'e' :: rest => some (.bool false, rest)
    | '"' :: rest =>
      (textBody? (rest.length + 1) rest).map fun (s, rest) => (.str (String.ofList s), rest)
    | '[' :: rest =>
      match skipSpace rest with
      | ']' :: rest => some (.arr [], rest)
      | rest => (items? fuel rest).map fun (items, rest) => (.arr items, rest)
    | '\x7b' :: rest =>
      match skipSpace rest with
      | '\x7d' :: rest => some (.obj [], rest)
      | rest =>
        (entries? fuel rest).map fun (entries, rest) => (.obj (Entries.sort entries), rest)
    | cs => (numberText? cs).map fun (n, rest) => (.num n, rest)

/-- The items of a list up to its closing bracket. -/
def items? : Nat → List Char → Option (List Json × List Char)
  | 0, _ => none
  | fuel + 1, cs =>
    (value? fuel cs).bind fun (item, rest) =>
      match skipSpace rest with
      | ',' :: rest => (items? fuel rest).map fun (items, rest) => (item :: items, rest)
      | ']' :: rest => some ([item], rest)
      | _ => none

/-- The entries of an object up to its closing brace. -/
def entries? : Nat → List Char → Option (List (String × Json) × List Char)
  | 0, _ => none
  | fuel + 1, cs =>
    match skipSpace cs with
    | '"' :: rest =>
      (textBody? (rest.length + 1) rest).bind fun (key, rest) =>
        match skipSpace rest with
        | ':' :: rest =>
          (value? fuel rest).bind fun (item, rest) =>
            match skipSpace rest with
            | ',' :: rest =>
              (entries? fuel rest).map fun (entries, rest) =>
                ((String.ofList key, item) :: entries, rest)
            | '\x7d' :: rest => some ([(String.ofList key, item)], rest)
            | _ => none
        | _ => none
    | _ => none

end

end Reader

/-- The value of a text that holds one value and nothing else. -/
def parse? (text : String) : Option Json :=
  let cs := text.toList
  match Reader.value? (cs.length + 1) cs with
  | some (value, rest) => if Reader.skipSpace rest = [] then some value else none
  | none => none

end OpenstackAdmission.Json
