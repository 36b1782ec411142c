import OpenstackAdmission.Time.Fault

/-!
# Reading points in time

`Time.read` reads a date, a time of day and an offset from UTC, as in `2024-01-02T03:04:05+01:00`, and
gives the second of UTC. Hyphens and colons may be left out, all of one kind together, and so may
minutes and seconds. A leap second counts as the second before it, and a fraction of a second is left
out. Suffixes in brackets may follow, of which nothing is kept.
-/

namespace OpenstackAdmission.Time

/-- Reads from the front of the characters that are left. -/
abbrev Reading := StateT (List Char) (Except Fault)

namespace Reading

/-- The next character, unless the text ends. -/
def peek : Reading (Option Char) := return (← get).head?

/-- Takes the next character if it passes a test. -/
def take (test : Char → Bool) : Reading (Option Char) := do
  match ← get with
  | c :: rest =>
    if test c then
      set rest
      return some c
    else return none
  | [] => return none

/-- Takes characters while they pass a test, but not more than some. -/
def takeWhile (limit : Nat) (test : Char → Bool) : Reading (List Char) := do
  let taken := ((← get).take limit).takeWhile test
  modify (·.drop taken.length)
  return taken

/-- A number of just as many digits as the part has. What is too short for them is told by its size, as
a character beyond ASCII is longer than a digit. -/
def number (part : Part) : Reading Nat := do
  let cs ← get
  if (String.ofList cs).utf8ByteSize < part.width then throw (.cutOff part)
  let (digits, rest) := cs.splitAt part.width
  if let some c := digits.find? (!·.isDigit) then throw (.notDigit part c)
  let n : Nat := digits.foldl (fun n c => n * 10 + (c.toNat - 48)) 0
  if n < part.bounds.1 || part.bounds.2 < n then throw (.outOfRange part)
  set rest
  return n

/-- A year of four digits, or of six behind a sign. -/
def year : Reading Int := do
  match ← take fun c => c = '+' || c = '-' with
  | none => return ← number .year
  | some sign =>
    let n ← number .signedYear
    if sign = '-' && n = 0 then throw .negativeYearZero
    return if sign = '-' then -n else n

/-- The hyphen between parts of a date, if they stand apart. -/
def hyphen (apart : Bool) (behind : Part) : Reading Unit := do
  let found ← peek
  if apart then
    if found ≠ some '-' then throw (.noHyphen behind found)
    modify List.tail
  else if found = some '-' then throw (.lateHyphen behind)

def date : Reading Date := do
  let year ← year
  let apart := (← peek) = some '-'
  hyphen apart .year
  let month ← number .month
  hyphen apart .month
  let day ← number .day
  if Date.daysOfMonth year month < day then throw (.noSuchDay year month)
  return ⟨year, month, day⟩

/-- Another number follows: behind a colon, if the numbers stand apart, else at once. -/
def another (apart : Bool) : Reading Bool := do
  if apart then return (← take (· = ':')).isSome
  else
    let next := (← get).take 2
    return next.length = 2 && next.all Char.isDigit

/-- The digits of a fraction of a second, nine at most; none if no decimal point begins one. -/
def fraction (inOffset : Bool) : Reading (List Char) := do
  match ← take fun c => c = '.' || c = ',' with
  | none => return []
  | some _ =>
    let digits ← takeWhile 9 Char.isDigit
    if digits = [] then throw (.emptyFraction inOffset)
    return digits

/-- The seconds from midnight. -/
def timeOfDay : Reading Nat := do
  let hour ← number .hour
  let apart := (← peek) = some ':'
  if !(← another apart) then return hour * 3600
  let minute ← number .minute
  if !(← another apart) then return hour * 3600 + minute * 60
  let second ← number .second
  let _ ← fraction false
  return hour * 3600 + minute * 60 + min second 59

/-- Seconds of an offset behind its minutes. A fraction is rounded, and a half counts as a second. -/
def offsetSeconds : Reading Nat := do
  let seconds ← number .offsetSeconds
  let digits ← fraction true
  return if digits.head?.any ('5' ≤ ·) then seconds + 1 else seconds

/-- The seconds of an offset: hours, with minutes and seconds as far as there are any. An offset that is
not fine has no seconds. -/
def offsetAmount (fine : Bool) : Reading Nat := do
  let hours ← number .offsetHours
  let apart := (← peek) = some ':'
  if !(← another apart) then return hours * 3600
  let minutes ← number .offsetMinutes
  if !(← another apart) then return hours * 3600 + minutes * 60
  if !fine then throw .offsetTooFine
  return hours * 3600 + minutes * 60 + (← offsetSeconds)

/-- An offset behind its sign. -/
def signedOffset (fine : Bool) (sign : Char) : Reading Offset := do
  let amount ← offsetAmount fine
  if 26 * 3600 ≤ amount then throw .offsetTooLong
  return ⟨if sign = '-' then -amount else amount⟩

/-- An offset from UTC, if one follows. -/
def offset : Reading (Option Offset) := do
  match ← take fun c => c = 'Z' || c = 'z' || c = '+' || c = '-' with
  | none => return none
  | some sign =>
    if sign = 'Z' || sign = 'z' then return some ⟨0⟩
    else return some (← signedOffset true sign)

/-- Takes a character that has to come now. -/
def sign (missing : SuffixSign) (test : Char → Bool) : Reading Unit := do
  if (← take test).isNone then throw (.badSuffix missing (← peek))

def isZoneStart (c : Char) : Bool := c.isAlpha || c = '_' || c = '.'

def isZoneChar (c : Char) : Bool := isZoneStart c || c.isDigit || c = '+' || c = '-'

def isKeyStart (c : Char) : Bool := c.isLower || c = '_'

def isKeyChar (c : Char) : Bool := isKeyStart c || c.isDigit || c = '-'

/-- The rest of some parts of a text between signs, each with a first character and others. -/
def parts (between : Char) (missing : SuffixSign) (isStart isPart : Char → Bool) :
    Nat → Reading Unit
  | 0 => return
  | limit + 1 => do
    sign missing isStart
    let cs ← get
    let _ ← takeWhile cs.length isPart
    if (← take (· = between)).isSome then parts between missing isStart isPart limit

/-- The inside of a suffix with a key and a value. -/
def keyedSuffix (critical : Bool) : Reading Unit := do
  sign .key isKeyStart
  let cs ← get
  let _ ← takeWhile cs.length isKeyChar
  sign .equals (· = '=')
  parts '-' .value Char.isAlphanum Char.isAlphanum cs.length
  sign .valueEnd (· = ']')
  if critical then throw .criticalSuffix

/-- The inside of the first suffix, which may tell a time zone. -/
def firstSuffix (critical : Bool) : Reading Unit := do
  match ← take fun c => c = '+' || c = '-' with
  | some c =>
    let _ ← signedOffset false c
    sign .zoneEnd (· = ']')
  | none =>
    let cs ← get
    parts '/' .zone isZoneStart isZoneChar cs.length
    if (← peek) = some '=' && !(cs.takeWhile (· ≠ '=')).contains '/' then
      set cs
      keyedSuffix critical
    else sign .zoneEnd (· = ']')

/-- Suffixes in brackets, as many as there are. -/
def suffixes (inside : Bool → Reading Unit) : Nat → Reading Unit
  | 0 => return
  | limit + 1 => do
    if (← take (· = '[')).isSome then
      inside (← take (· = '!')).isSome
      suffixes keyedSuffix limit

/-- Whatever stands in the text. A date may stand alone. -/
def all : Reading (Date × Option (Nat × Option Offset)) := do
  let date ← date
  let time ← match ← take fun c => c = 'T' || c = 't' || c = ' ' with
    | none => pure none
    | some _ =>
      let seconds ← timeOfDay
      pure (some (seconds, ← offset))
  suffixes firstSuffix (← get).length
  return (date, time)

end Reading

/-- The second of UTC that a text tells, counted from the start of 1970. -/
def read (text : String) : Except Fault Int := do
  let cs := text.toList
  let ((date, time), rest) ← Reading.all.run cs
  if rest ≠ [] then throw (.leftOver (cs.take (cs.length - rest.length)) rest)
  let some (seconds, offset) := time | throw .noTime
  let some offset := offset | throw .noOffset
  let second := date.toDays * 86400 + seconds - offset.seconds
  if second < countedSeconds.1 || countedSeconds.2 < second then throw (.uncounted offset)
  return second

end OpenstackAdmission.Time
