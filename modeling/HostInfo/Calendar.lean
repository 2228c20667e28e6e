import HostInfo.Binary64.Basic
import HostInfo.Numeral

/-!
# Dates and times of day

Moments are milliseconds since the start of 1970. Dates follow the Gregorian calendar in both
directions, with a year zero, from the year -262143 to the year 262142; moments outside have
no date.
-/

namespace HostInfo

structure DateTime where
  year : Int
  month : Nat
  day : Nat
  hour : Nat
  minute : Nat
  second : Nat
  millisecond : Nat
deriving DecidableEq, Repr

namespace DateTime

/-- Year, month and day of a day counted from the start of 1970. Years are taken to start in
March, so that a leap day is the last day of its year; 400 years have 146097 days. -/
def dateOfDay (day : Int) : Int × Nat × Nat :=
  let shifted := day + 719468
  let era := shifted.fdiv 146097
  let dayOfEra := (shifted.fmod 146097).toNat
  let yearOfEra :=
    (dayOfEra - dayOfEra / 1460 + dayOfEra / 36524 - dayOfEra / 146096) / 365
  let dayOfYear := dayOfEra - (365 * yearOfEra + yearOfEra / 4 - yearOfEra / 100)
  let monthFromMarch := (5 * dayOfYear + 2) / 153
  let dayOfMonth := dayOfYear - (153 * monthFromMarch + 2) / 5 + 1
  let month := if monthFromMarch < 10 then monthFromMarch + 3 else monthFromMarch - 9
  (yearOfEra + era * 400 + (if month ≤ 2 then 1 else 0), month, dayOfMonth)

def millisPerDay : Nat := 86400000

/-- The first and the last day that have a date. -/
def firstDay : Int := -96465292

def lastDay : Int := 95026236

/-- The date and time of a moment. -/
def ofMillis? (ms : Int) : Option DateTime :=
  let day := ms.fdiv millisPerDay
  let rest := (ms.fmod millisPerDay).toNat
  if firstDay ≤ day ∧ day ≤ lastDay then
    let (year, month, dayOfMonth) := dateOfDay day
    some { year, month, day := dayOfMonth, hour := rest / 3600000,
           minute := rest / 60000 % 60, second := rest / 1000 % 60, millisecond := rest % 1000 }
  else none

/-- At least four digits, with a sign outside the years 0 to 9999. -/
def yearText (year : Int) : List Char :=
  let digits := Numeral.padded 4 year.natAbs
  if year < 0 then '-' :: digits
  else if 9999 < year then '+' :: digits
  else digits

/-- Date and time to the second. -/
def text (t : DateTime) : String :=
  String.ofList (yearText t.year ++ '-' :: Numeral.padded 2 t.month ++ '-' ::
    Numeral.padded 2 t.day ++ ' ' :: Numeral.padded 2 t.hour ++ ':' ::
    Numeral.padded 2 t.minute ++ ':' :: Numeral.padded 2 t.second)

/-- Date and time to the millisecond. -/
def millisText (t : DateTime) : String :=
  t.text ++ String.ofList ('.' :: Numeral.padded 3 t.millisecond)

end DateTime

/-- The moment at which the system started, if it has a date; fractions of a millisecond of the
uptime are cut off. -/
def bootTime? (now : Int) (uptime : Binary64) : Option DateTime :=
  DateTime.ofMillis? (now - (uptime * 1000).toInt)

end HostInfo
