import EnumHeader.Text.Numeral

/-!
# Timestamps

A moment as the clocks of a place show it: a date of the Gregorian calendar, a time of day, and how
far the place is from universal time.
-/

namespace EnumHeader

set_option autoImplicit false

structure Timestamp where
  /-- Counted without a gap: the year before 1 is 0, the one before that is negative. -/
  year : Int
  month : Nat
  day : Nat
  hour : Nat
  minute : Nat
  second : Nat
  /-- Seconds that the place is ahead of universal time, negative if it is behind. -/
  offset : Int
  deriving Repr, DecidableEq, Inhabited

namespace Timestamp

/-- Four digits; a year that they cannot show has a sign as well. -/
def yearText (year : Int) : String :=
  let digits := Text.zeroPadded 4 year.natAbs
  if year < 0 then "-" ++ digits
  else if 9999 < year then "+" ++ digits
  else digits

/-- Hours and minutes, to the nearest minute. -/
def offsetText (offset : Int) : String :=
  let minutes := (offset.natAbs + 30) / 60
  (if offset < 0 then "-" else "+") ++ Text.zeroPadded 2 (minutes / 60) ++ ":" ++
    Text.zeroPadded 2 (minutes % 60)

def text (timestamp : Timestamp) : String :=
  yearText timestamp.year ++ "-" ++ Text.zeroPadded 2 timestamp.month ++ "-" ++
    Text.zeroPadded 2 timestamp.day ++ " " ++ Text.zeroPadded 2 timestamp.hour ++ ":" ++
    Text.zeroPadded 2 timestamp.minute ++ ":" ++ Text.zeroPadded 2 timestamp.second ++ " " ++
    offsetText timestamp.offset

/-- Year, month and day of a date that is so many days after the first of January 1970.

Days are counted from the first of March of the year 0, so that a leap day ends its year and 400
years always have the same number of days. -/
def dateOfDays (days : Nat) : Nat × Nat × Nat :=
  let sinceMarch := days + 719468
  let era := sinceMarch / 146097
  let dayOfEra := sinceMarch % 146097
  let yearOfEra := (dayOfEra - dayOfEra / 1460 + dayOfEra / 36524 - dayOfEra / 146096) / 365
  let dayOfYear := dayOfEra - (365 * yearOfEra + yearOfEra / 4 - yearOfEra / 100)
  let monthFromMarch := (5 * dayOfYear + 2) / 153
  let day := dayOfYear - (153 * monthFromMarch + 2) / 5 + 1
  let month := if monthFromMarch < 10 then monthFromMarch + 3 else monthFromMarch - 9
  let year := 400 * era + yearOfEra
  (if month ≤ 2 then year + 1 else year, month, day)

/-- The moment that is so many seconds after the start of 1970, where the clocks are that far ahead
of universal time. -/
def ofSeconds (seconds : Nat) (offset : Int) : Timestamp :=
  let shown := ((seconds : Int) + offset).toNat
  let (year, month, day) := dateOfDays (shown / 86400)
  let inDay := shown % 86400
  { year, month, day, hour := inDay / 3600, minute := inDay / 60 % 60, second := inDay % 60,
    offset }

example : ofSeconds 951782400 0 = ⟨2000, 2, 29, 0, 0, 0, 0⟩ := by decide

example : (ofSeconds 4107542400 (-12600)).text = "2100-02-28 20:30:00 -03:30" := by
  decide +kernel

end Timestamp

end EnumHeader
