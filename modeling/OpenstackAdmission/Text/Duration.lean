import OpenstackAdmission.Text.Blank
import OpenstackAdmission.Text.Quoted

/-!
# Durations

A duration is a sequence of numbers with units, as in `1h 30min`; a number may have a fraction. Whole
seconds and nanoseconds are counted in words of 64 bits, and a text is refused where they overflow or
where a fraction is not a whole number of the smaller unit.
-/

namespace OpenstackAdmission.Text

/-- Why a text is no duration. Offsets count bytes of UTF-8. -/
inductive DurationError where
  | empty
  | numberExpected (offset : Nat)
  | invalidCharacter (offset : Nat)
  | tooLarge
  /-- A number without unit. -/
  | unitMissing (number : Nat)
  | unknownUnit (name : String)
  deriving DecidableEq, Repr

def DurationError.message : DurationError → String
  | .empty => "value was empty"
  | .numberExpected offset => s!"expected number at {offset}"
  | .invalidCharacter offset => s!"invalid character at {offset}"
  | .tooLarge => "number is too large or cannot be represented without a lack of precision " ++
      "(values below 1ns are not supported)"
  | .unitMissing number =>
    s!"time unit needed, for example {number}sec or {number}ms"
  | .unknownUnit name => "unknown time unit " ++ quoted name ++ ", supported units: ns, us/µs, " ++
      "ms, sec, min, hours, days, weeks, months, years (and few variations)"

/-- What a unit counts. -/
inductive TimeUnit where
  /-- So many nanoseconds. -/
  | nanos (factor : Nat)
  /-- So many seconds; fractions are counted in nanoseconds. -/
  | shortSeconds (factor : Nat)
  /-- So many seconds; fractions are counted in seconds. -/
  | longSeconds (factor : Nat)

/-- The names of units. -/
def TimeUnit.ofName? (name : String) : Option TimeUnit :=
  if name ∈ ["nanos", "nsec", "ns"] then some (.nanos 1)
  else if name ∈ ["usec", "us", "µs"] then some (.nanos 1000)
  else if name ∈ ["millis", "msec", "ms"] then some (.nanos 1000000)
  else if name ∈ ["seconds", "second", "secs", "sec", "s"] then some (.shortSeconds 1)
  else if name ∈ ["minutes", "minute", "min", "mins", "m"] then some (.shortSeconds 60)
  else if name ∈ ["hours", "hour", "hrs", "hr", "h"] then some (.longSeconds 3600)
  else if name ∈ ["days", "day", "d"] then some (.longSeconds 86400)
  else if name ∈ ["weeks", "week", "wks", "wk", "w"] then some (.longSeconds 604800)
  else if name ∈ ["months", "month", "M"] then some (.longSeconds 2630016)
  else if name ∈ ["years", "year", "yrs", "yr", "y"] then some (.longSeconds 31557600)
  else none

/-- A duration. -/
structure Duration where
  seconds : Nat
  nanoseconds : Nat
  deriving DecidableEq, Repr

/-- A number that fits a word. -/
def wordSized (n : Nat) : Except DurationError Nat :=
  if n < Nat.pow 2 64 then .ok n else .error .tooLarge

/-- A quotient of words that is whole. -/
def wholeQuotient (num den : Nat) : Except DurationError Nat := do
  let num ← wordSized num
  if num % den = 0 then .ok (num / den) else .error .tooLarge

/-- The digits after a point: `num / den`, where `den` is a power of ten. -/
structure Fraction where
  num : Nat
  den : Nat

namespace Duration

/-- Adds seconds and nanoseconds. -/
def add (d : Duration) (seconds nanoseconds : Nat) : Except DurationError Duration := do
  let nanos ← wordSized (d.nanoseconds + nanoseconds)
  let seconds ← wordSized (d.seconds + seconds + nanos / 1000000000)
  return { seconds, nanoseconds := nanos % 1000000000 }

/-- Adds a number of units without its fraction. -/
def addWhole (d : Duration) (n : Nat) : TimeUnit → Except DurationError Duration
  | .nanos factor => do d.add 0 (← wordSized (n * factor))
  | .shortSeconds factor => do d.add (← wordSized (n * factor)) 0
  | .longSeconds factor => do d.add (← wordSized (n * factor)) 0

/-- Adds a fraction of a unit. Nanoseconds have none. -/
def addFraction (d : Duration) (f : Fraction) : TimeUnit → Except DurationError Duration
  | .nanos factor =>
    if factor = 1 then .error .tooLarge
    else do d.add 0 (← wholeQuotient (f.num * factor) f.den)
  | .shortSeconds factor => do d.add 0 (← wholeQuotient (f.num * (factor * 1000000000)) f.den)
  | .longSeconds factor => do d.add (← wholeQuotient (f.num * factor) f.den) 0

/-- Adds a number with the unit of a name. -/
def addUnits (d : Duration) (n : Nat) (fraction : Option Fraction) (name : List Char) :
    Except DurationError Duration :=
  match TimeUnit.ofName? (String.ofList name) with
  | none => .error (if name = [] then .unitMissing n else .unknownUnit (String.ofList name))
  | some unit => do
    let d ← d.addWhole n unit
    match fraction with
    | none => return d
    | some f => d.addFraction f unit

/-- Where reading stands. -/
inductive Phase where
  /-- Before a number, the first one or another. An offending character is reported where the
  blanks before it begin. -/
  | before (first : Bool) (offset : Nat)
  | whole (n : Nat)
  /-- After the point; an offending character is reported at `offset`. -/
  | fraction (n : Nat) (f : Fraction) (offset : Nat)
  /-- In a unit, the letters of which stand in reverse order. -/
  | unit (n : Nat) (f : Option Fraction) (letters : List Char)

/-- The characters that units are made of. -/
def isUnitLetter (c : Char) : Bool := c.isAlpha || c = 'µ'

/-- The duration read so far, and where reading stands. -/
structure Progress where
  total : Duration := ⟨0, 0⟩
  phase : Phase := .before true 0
  offset : Nat := 0

/-- Reads one character. -/
def step (p : Progress) (c : Char) : Except DurationError Progress := do
  let next := p.offset + c.utf8Size
  let digit := c.toNat - 48
  match p.phase with
  | .before _ offset =>
    if c.isDigit then return { p with phase := .whole digit, offset := next }
    else if isBlank c then return { p with offset := next }
    else .error (.numberExpected offset)
  | .whole n =>
    if c.isDigit then
      let n ← wordSized (n * 10 + digit)
      return { p with phase := .whole n, offset := next }
    else if isBlank c then return { p with offset := next }
    else if isUnitLetter c then return { p with phase := .unit n none [c], offset := next }
    else if c = '.' then
      return { p with phase := .fraction n ⟨0, 1⟩ p.offset, offset := next }
    else .error (.invalidCharacter p.offset)
  | .fraction n f offset =>
    if c.isDigit then
      let den ← wordSized (f.den * 10)
      let num ← wordSized (f.num * 10 + digit)
      return { p with phase := .fraction n ⟨num, den⟩ next, offset := next }
    else if isBlank c then return { p with phase := .fraction n f next, offset := next }
    else if isUnitLetter c && f.den ≠ 1 then
      return { p with phase := .unit n (some f) [c], offset := next }
    else .error (.invalidCharacter offset)
  | .unit n f letters =>
    if c.isDigit then
      let total ← p.total.addUnits n f letters.reverse
      return { total, phase := .whole digit, offset := next }
    else if isBlank c then
      let total ← p.total.addUnits n f letters.reverse
      return { total, phase := .before false next, offset := next }
    else if isUnitLetter c then
      return { p with phase := .unit n f (c :: letters), offset := next }
    else .error (.invalidCharacter p.offset)

/-- Reads all characters. -/
def run (p : Progress) : List Char → Except DurationError Progress
  | [] => .ok p
  | c :: cs =>
    match step p c with
    | .error e => .error e
    | .ok p => run p cs

/-- The duration at the end of the text. -/
def finish (p : Progress) : Except DurationError Duration :=
  match p.phase with
  | .before true _ => .error .empty
  | .before false _ => .ok p.total
  | .whole n => p.total.addUnits n none []
  | .fraction n f offset =>
    if f.den = 1 then .error (.invalidCharacter offset) else p.total.addUnits n (some f) []
  | .unit n f letters => p.total.addUnits n f letters.reverse

/-- Reads a duration. A lone zero needs no unit. -/
def parse (s : String) : Except DurationError Duration :=
  if s = "0" then .ok ⟨0, 0⟩
  else
    match run {} s.toList with
    | .error e => .error e
    | .ok p => finish p

end Duration

end OpenstackAdmission.Text
