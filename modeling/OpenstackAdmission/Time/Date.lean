/-!
# Dates

Dates are those of the Gregorian calendar, which holds for all years here. A date is also a number of
days from the first day of 1970; `Date.toDays` and `Date.ofDays` go from one to the other.
-/

namespace OpenstackAdmission.Time

/-- A day of a month of a year. Before year one comes year zero. -/
structure Date where
  year : Int
  month : Nat
  day : Nat
  deriving DecidableEq, Repr

namespace Date

def isLeapYear (year : Int) : Bool := year % 4 = 0 && (year % 100 ≠ 0 || year % 400 = 0)

def daysOfMonth (year : Int) (month : Nat) : Nat :=
  if month = 2 then if isLeapYear year then 29 else 28
  else if month = 4 || month = 6 || month = 9 || month = 11 then 30
  else 31

/-- The days from the first day of 1970. Years begin in March here, so that the day that leap years add
is their last; 400 years have 146097 days. -/
def toDays (d : Date) : Int :=
  let y := if d.month ≤ 2 then d.year - 1 else d.year
  let era := y.fdiv 400
  let yearOfEra := y - era * 400
  let dayOfYear : Int := (153 * ((d.month + 9) % 12) + 2) / 5 + d.day - 1
  let dayOfEra := yearOfEra * 365 + yearOfEra / 4 - yearOfEra / 100 + dayOfYear
  era * 146097 + dayOfEra - 719468

/-- The date a number of days after the first day of 1970. -/
def ofDays (days : Int) : Date :=
  let z := days + 719468
  let era := z.fdiv 146097
  let dayOfEra := z - era * 146097
  let yearOfEra := (dayOfEra - dayOfEra / 1460 + dayOfEra / 36524 - dayOfEra / 146096) / 365
  let dayOfYear := dayOfEra - (365 * yearOfEra + yearOfEra / 4 - yearOfEra / 100)
  let shifted := (5 * dayOfYear + 2) / 153
  let day := dayOfYear - (153 * shifted + 2) / 5 + 1
  let month := if shifted < 10 then shifted + 3 else shifted - 9
  let year := yearOfEra + era * 400
  ⟨if month ≤ 2 then year + 1 else year, month.toNat, day.toNat⟩

/-- A number with leading zeros up to a width. -/
def padded (width : Nat) (n : Nat) : String :=
  let text := toString n
  String.ofList (List.replicate (width - text.length) '0') ++ text

/-- A year in four characters at least, to which the sign of a year before year zero belongs. -/
def yearText (year : Int) : String :=
  if year < 0 then "-" ++ padded 3 year.natAbs else padded 4 year.toNat

/-- The month of the date. -/
def monthText (year : Int) (month : Nat) : String := yearText year ++ "-" ++ padded 2 month

def text (d : Date) : String := monthText d.year d.month ++ "-" ++ padded 2 d.day

example : (Date.mk 1970 1 1).toDays = 0 := by decide
example : (Date.mk 2000 2 29).toDays = 11016 ∧ ofDays 11016 = ⟨2000, 2, 29⟩ := by decide
example : ofDays (-719529) = ⟨-1, 12, 31⟩ := by decide

end Date

end OpenstackAdmission.Time
