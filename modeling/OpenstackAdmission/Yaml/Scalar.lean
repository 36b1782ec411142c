import OpenstackAdmission.Text.Hexadecimal
import OpenstackAdmission.Yaml.Event
import OpenstackAdmission.Yaml.Value

/-!
# What texts stand for

A plain text may stand for null, a truth value or a number; every other text stands for itself, and so does
a text in quotes or a block. A tag can ask for one of these kinds.
-/

namespace OpenstackAdmission.Yaml

/-- What is wrong with a text. -/
inductive ScalarFault where
  /-- A whole number of more than 64 bits. -/
  | tooWide (value : Int)
  /-- A text that is not of the kind that its tag asks for. -/
  | notOfKind (text kind : String)
  deriving DecidableEq, Repr

namespace ScalarFault

def message : ScalarFault → String
  | .tooWide n =>
    s!"invalid type: integer `{n}` as " ++ (if n < 0 then "i128" else "u128") ++
      ", expected any YAML value"
  | .notOfKind text kind => "invalid value: string " ++ Text.quoted text ++ ", expected " ++ kind

end ScalarFault

namespace Scalar

def isNullText (s : String) : Bool := s = "null" || s = "Null" || s = "NULL" || s = "~"

def bool? (s : String) : Option Bool :=
  if s = "true" || s = "True" || s = "TRUE" then some true
  else if s = "false" || s = "False" || s = "FALSE" then some false
  else none

/-! ## Whole numbers -/

/-- The value of digits to a base, of which there is at least one. -/
def digits? (base : Nat) (cs : List Char) : Option Nat :=
  if cs = [] then none
  else
    cs.foldl (fun n c => do
      let n ← n
      let d ← Text.hexValue? c
      if d < base then some (n * base + d) else none) (some 0)

/-- The value of a whole number without sign, decimal or with its base before it. -/
def natural? : List Char → Option Nat
  | '0' :: 'x' :: rest => digits? 16 rest
  | '0' :: 'o' :: rest => digits? 8 rest
  | '0' :: 'b' :: rest => digits? 2 rest
  | cs => digits? 10 cs

/-- A text without the sign before it. -/
def unsigned : List Char → List Char
  | '-' :: rest => rest
  | '+' :: rest => rest
  | cs => cs

/-- Several digits of which the first is zero are no number. -/
def isPadded (cs : List Char) : Bool :=
  match unsigned cs with
  | '0' :: rest => rest ≠ [] && rest.all Char.isDigit
  | _ => false

/-- The value of a whole number. -/
def whole? (cs : List Char) : Option Int :=
  if isPadded cs then none
  else
    match cs with
    | '-' :: rest => (natural? rest).map fun n => -(n : Int)
    | '+' :: rest => (natural? rest).map fun n => (n : Int)
    | cs => (natural? cs).map fun n => (n : Int)

/-- The whole number of a text, unless it is so large that it is none. Numbers of more than 64 bits are
refused. -/
def integer? (cs : List Char) : Option (Except ScalarFault Number) :=
  match whole? cs with
  | none => none
  | some n =>
    if -(Nat.pow 2 63) ≤ n && n < Nat.pow 2 64 then some (.ok (.whole n))
    else if -(Nat.pow 2 127) ≤ n && n < Nat.pow 2 128 then some (.error (.tooWide n))
    else none

/-! ## Other numbers -/

/-- The power of ten behind the digits, which may be left out. -/
def power? : List Char → Option Int
  | [] => some 0
  | c :: rest =>
    if c = 'e' || c = 'E' then
      match rest with
      | '-' :: rest => (digits? 10 rest).map fun n => -(n : Int)
      | '+' :: rest => (digits? 10 rest).map fun n => (n : Int)
      | rest => (digits? 10 rest).map fun n => (n : Int)
    else none

/-- The digits behind the point, if there is a point, and what follows. -/
def places : List Char → List Char × List Char
  | '.' :: rest => (rest.takeWhile Char.isDigit, rest.dropWhile Char.isDigit)
  | cs => ([], cs)

/-- The binary number nearest to a decimal without sign, if there is one. -/
def decimal? (negative : Bool) (cs : List Char) : Option Binary64 := do
  let front := cs.takeWhile Char.isDigit
  let (behind, rest) := places (cs.dropWhile Char.isDigit)
  let digits ← digits? 10 (front ++ behind)
  let power ← power? rest
  Binary64.ofDecimal? negative digits (power - behind.length)

/-- The number of a text that has a point or an exponent, is infinite or is no number. -/
def real? (cs : List Char) : Option Number :=
  let infinity := [".inf", ".Inf", ".INF"].map String.toList
  if [".nan", ".NaN", ".NAN"].map String.toList |>.contains cs then some .notANumber
  else
    match cs with
    | '-' :: rest =>
      if infinity.contains rest then some (.infinite true) else (decimal? true rest).map .finite
    | '+' :: rest =>
      if infinity.contains rest then some (.infinite false) else (decimal? false rest).map .finite
    | cs => if infinity.contains cs then some (.infinite false) else (decimal? false cs).map .finite

/-! ## Kinds of texts -/

/-- What a plain text stands for. -/
def ofPlain (text : String) : Except ScalarFault Value :=
  let cs := text.toList
  if text = "" || isNullText text then .ok .null
  else
    match bool? text with
    | some b => .ok (.bool b)
    | none =>
      match integer? cs with
      | some n => n.map .number
      | none =>
        match if isPadded cs then none else real? cs with
        | some n => .ok (.number n)
        | none => .ok (.string text)

/-- What a text with a tag of the language stands for. -/
def ofTagged (tag text : String) : Option (Except ScalarFault Value) :=
  if tag = "tag:yaml.org,2002:bool" then
    some (match bool? text with
      | some b => .ok (.bool b)
      | none => .error (.notOfKind text "a boolean"))
  else if tag = "tag:yaml.org,2002:int" then
    some (match integer? text.toList with
      | some n => n.map .number
      | none => .error (.notOfKind text "an integer"))
  else if tag = "tag:yaml.org,2002:float" then
    some (match real? text.toList with
      | some n => .ok (.number n)
      | none => .error (.notOfKind text "a float"))
  else if tag = "tag:yaml.org,2002:null" then
    some (if isNullText text then .ok .null else .error (.notOfKind text "null"))
  else none

end Scalar

end OpenstackAdmission.Yaml
