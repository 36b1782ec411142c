import OpenstackAdmission.Text.Hexadecimal
import OpenstackAdmission.Text.Quoted
import OpenstackAdmission.Time.Date

/-!
# Why a text is not a point in time

A fault tells the part that could not be read, or what the text as a whole lacks; `Fault.message` gives
each its wording.
-/

namespace OpenstackAdmission.Time

/-- A number in a date, a time of day or an offset from UTC. -/
inductive Part where
  | year
  /-- A year behind a sign. -/
  | signedYear
  | month
  | day
  | hour
  | minute
  | second
  | offsetHours
  | offsetMinutes
  | offsetSeconds
  deriving DecidableEq, Repr

namespace Part

/-- How many digits the number has. -/
def width : Part → Nat
  | .year => 4
  | .signedYear => 6
  | _ => 2

/-- The numbers that the part may be, for parts behind a sign with either sign. -/
def bounds : Part → Int × Int
  | .year | .signedYear => (-9999, 9999)
  | .month => (1, 12)
  | .day => (1, 31)
  | .hour => (0, 23)
  | .minute => (0, 59)
  | .second => (0, 60)
  | .offsetHours => (-25, 25)
  | .offsetMinutes | .offsetSeconds => (-59, 59)

def name : Part → String
  | .year | .signedYear => "year"
  | .month => "month"
  | .day => "day"
  | .hour => "hour"
  | .minute => "minute"
  | .second => "second"
  | .offsetHours => "time zone offset hours"
  | .offsetMinutes => "time zone offset minutes"
  | .offsetSeconds => "time zone offset seconds"

/-- What is being read where the part of an offset stands. -/
def setting : Part → String
  | .offsetHours => "failed to parse hours in UTC numeric offset: "
  | .offsetMinutes => "failed to parse minutes in UTC numeric offset: "
  | .offsetSeconds => "failed to parse seconds in UTC numeric offset: "
  | _ => ""

/-- What the text has too few digits for. -/
def expectation : Part → String
  | .year => "four digit year (or leading sign for six digit year)"
  | .signedYear => "six digit year (because of a leading sign)"
  | .month => "two digit month"
  | .day => "two digit day"
  | .hour => "two digit hour"
  | .minute => "two digit minute"
  | .second => "two digit second"
  | .offsetHours => "two digit hour after sign"
  | .offsetMinutes => "two digit minute after hours"
  | .offsetSeconds => "two digit second after minutes"

/-- What fails if the digits are no number of the part. -/
def reading : Part → String
  | .signedYear => "failed to parse six digit integer as year: "
  | .offsetHours => "failed to parse hours (requires a two digit integer): "
  | .offsetMinutes => "failed to parse minutes (requires a two digit integer): "
  | .offsetSeconds => "failed to parse seconds (requires a two digit integer): "
  | .year => "failed to parse four digit integer as year: "
  | p => s!"failed to parse two digit integer as {p.name}: "

end Part

/-- A sign in a suffix, which stands in square brackets behind a time. -/
inductive SuffixSign where
  | zone
  | zoneEnd
  | key
  | equals
  | value
  | valueEnd
  deriving DecidableEq, Repr

def SuffixSign.expectation : SuffixSign → String × String
  | .zone => ("the start of an RFC 9557 annotation or IANA time zone component name",
      "ASCII alphabetic byte (or underscore or period) at the start of an RFC 9557 annotation or " ++
        "time zone component name")
  | .zoneEnd => ("an `]` after parsing an RFC 9557 time zone annotation",
      "an `]` after parsing an RFC 9557 time zone annotation")
  | .key => ("the start of an RFC 9557 annotation key",
      "lowercase alphabetic byte (or underscore) at the start of an RFC 9557 annotation key")
  | .equals => ("an `=` after parsing an RFC 9557 annotation key",
      "an `=` after parsing an RFC 9557 annotation key")
  | .value => ("the start of an RFC 9557 annotation value",
      "alphanumeric ASCII byte at the start of an RFC 9557 annotation value")
  | .valueEnd => ("an `]` after parsing an RFC 9557 annotation key and value",
      "an `]` after parsing an RFC 9557 annotation key and value")

/-- An offset from UTC in seconds, with its sign. -/
structure Offset where
  seconds : Int
  deriving DecidableEq, Repr

/-- Hours, and minutes and seconds as far as there are any. -/
def Offset.text (o : Offset) : String :=
  let n := o.seconds.natAbs
  let hours := (if o.seconds < 0 then "-" else "+") ++ Date.padded 2 (n / 3600)
  let minutes := hours ++ ":" ++ Date.padded 2 (n / 60 % 60)
  if n % 3600 = 0 then hours
  else if n % 60 = 0 then minutes
  else minutes ++ ":" ++ Date.padded 2 (n % 60)

inductive Fault where
  /-- The text ends before all digits of a part. -/
  | cutOff (part : Part)
  | notDigit (part : Part) (found : Char)
  | outOfRange (part : Part)
  | negativeYearZero
  /-- No hyphen behind a part of a date whose first hyphen is there. -/
  | noHyphen (behind : Part) (found : Option Char)
  /-- A hyphen behind a part of a date whose first hyphen is left out. -/
  | lateHyphen (behind : Part)
  | noSuchDay (year : Int) (month : Nat)
  | emptyFraction (inOffset : Bool)
  | offsetTooLong
  /-- Seconds in the offset of a suffix. -/
  | offsetTooFine
  | badSuffix (missing : SuffixSign) (found : Option Char)
  /-- A suffix that has to be understood, but is not. -/
  | criticalSuffix
  | leftOver (read rest : List Char)
  | noTime
  | noOffset
  /-- A time before or after all that are counted. -/
  | uncounted (offset : Offset)
  deriving DecidableEq, Repr

/-- The seconds from the start of 1970 that are counted, so that no offset leads out of the years from
9999 before to 9999 after year zero. -/
def countedSeconds : Int × Int := (-377705023201, 253402207200)

/-- Bounds in a message. -/
private def rangeText (name : String) (bounds : Int × Int) : String :=
  s!"parameter '{name}' is not in the required range of {bounds.1}..={bounds.2}"

/-- A character of ASCII that is told without digits. -/
private def shown? : Char → Option (List Char)
  | '\t' => some ['\\', 't']
  | '\n' => some ['\\', 'n']
  | '\r' => some ['\\', 'r']
  | c =>
    if c = '\'' || c = '"' || c = '\\' then some ['\\', c]
    else if ' ' ≤ c && c ≤ '~' then some [c]
    else none

/-- The first byte of a character, with digits in upper case. -/
private def byteText (c : Char) : String :=
  let first := (c.toString.toUTF8.toList.head?.map UInt8.toNat).getD 0
  let digits := (Text.hexDigits (first / 16) ++ Text.hexDigits (first % 16)).map Char.toUpper
  String.ofList ((shown? c).getD (['\\', 'x'] ++ digits))

/-- A character of a text that is left over, with digits in lower case. -/
private def leftOverText (c : Char) : List Char :=
  match shown? c with
  | some text => text
  | none =>
    if c = '\x00' || '\x7f' < c then Text.escaped c
    else ['\\', 'x'] ++ Text.hexDigits (c.toNat / 16) ++ Text.hexDigits (c.toNat % 16)

/-- The hyphen that is missing, or what stands in its place. -/
private def hyphenText : Option Char → String
  | some c => "expected `-` separator, but found `" ++ byteText c ++ "`"
  | none => "expected `-` separator, but found end of input"

/-- A part behind which a sign is read. -/
private def separatorText (behind : Part) : String :=
  s!"failed to parse separator after {behind.name}: "

def Fault.message : Fault → String
  | .cutOff part => part.setting ++ s!"expected {part.expectation}, but found end of input"
  | .notDigit part found =>
    part.setting ++ part.reading ++ "invalid digit, expected 0-9 but got " ++ byteText found
  | .outOfRange part => part.setting ++ part.reading ++ rangeText part.name part.bounds
  | .negativeYearZero =>
    "year zero must be written without a sign or a positive sign, but not a negative sign"
  | .noHyphen behind found => separatorText behind ++ hyphenText found
  | .lateHyphen behind =>
    separatorText behind ++ "expected no separator since none was found after the year, " ++
      "but found a `-` separator"
  | .noSuchDay year month =>
    "parsed date is not valid: parameter 'day' for `" ++ Date.monthText year month ++
      s!"` is invalid, must be in range `1..={Date.daysOfMonth year month}`"
  | .emptyFraction inOffset =>
    (if inOffset then "failed to parse fractional seconds in UTC numeric offset: "
      else "failed to parse fractional seconds in time: ") ++
      "found decimal after seconds component, but did not find any digits after decimal"
  | .offsetTooLong => "due to precision loss, offset is rounded to a value that is out of bounds"
  | .offsetTooFine => "subminute precision for UTC numeric offset is not enabled in this context " ++
      "(must provide only integral minutes)"
  | .badSuffix missing none =>
    s!"expected {missing.expectation.1}, but found end of input"
  | .badSuffix missing (some c) =>
    s!"expected {missing.expectation.2}, but found `{byteText c}`"
  | .criticalSuffix =>
    "found unsupported RFC 9557 annotation with the critical flag (`!`) set"
  | .leftOver read rest =>
    "parsed value '" ++ String.ofList read ++ "', but unparsed input \"" ++
      String.ofList (rest.flatMap leftOverText) ++ "\" remains (expected no unparsed input)"
  | .noTime => "failed to find time component, which is required for parsing a timestamp"
  | .noOffset => "failed to find offset component, which is required for parsing a timestamp"
  | .uncounted offset =>
    s!"failed to convert civil datetime to timestamp with offset {offset.text}: converting " ++
      "datetime with time zone offset `" ++ offset.text ++ "` to timestamp overflowed: " ++
      rangeText "Unix timestamp seconds" countedSeconds

end OpenstackAdmission.Time
