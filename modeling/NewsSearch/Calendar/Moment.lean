import NewsSearch.Text.Digits

/-!
# Civil dates and times

A moment is a date of the Gregorian calendar and a time of day. The second may be sixty, for a leap
second.
-/

namespace NewsSearch

structure Moment where
  year : Int
  month : Nat
  day : Nat
  hour : Nat
  minute : Nat
  second : Nat
deriving DecidableEq, Repr

namespace Moment

def isLeapYear (year : Int) : Bool := year % 4 == 0 && (year % 100 != 0 || year % 400 == 0)

/-- The days of a month. -/
def monthLength (year : Int) (month : Nat) : Nat :=
  if month = 2 then if isLeapYear year then 29 else 28
  else if month = 4 ∨ month = 6 ∨ month = 9 ∨ month = 11 then 30
  else 31

def minYear : Int := -262143
def maxYear : Int := 262142

/-- The dates and times that exist. -/
def isValid (m : Moment) : Bool :=
  minYear ≤ m.year && m.year ≤ maxYear && 1 ≤ m.month && m.month ≤ 12
    && 1 ≤ m.day && m.day ≤ monthLength m.year m.month
    && m.hour ≤ 23 && m.minute ≤ 59 && m.second ≤ 60

/-- The same time on the day before. -/
def dayBefore (m : Moment) : Moment :=
  if 1 < m.day then { m with day := m.day - 1 }
  else if 1 < m.month then
    { m with month := m.month - 1, day := monthLength m.year (m.month - 1) }
  else { m with year := m.year - 1, month := 12, day := 31 }

/-- The same time on the day after. -/
def dayAfter (m : Moment) : Moment :=
  if m.day < monthLength m.year m.month then { m with day := m.day + 1 }
  else if m.month < 12 then { m with month := m.month + 1, day := 1 }
  else { m with year := m.year + 1, month := 1, day := 1 }

/-- The moment some minutes earlier, less than a day away in either direction. -/
def minusMinutes (m : Moment) (minutes : Int) : Moment :=
  let total : Int := m.hour * 60 + m.minute - minutes
  let clock : Nat := (total % 1440).toNat
  let moved := { m with hour := clock / 60, minute := clock % 60 }
  if total < 0 then moved.dayBefore
  else if 1440 ≤ total then moved.dayAfter
  else moved

/-- Four digits, or a sign and at least four digits for a year before 0 or after 9999. -/
def yearText (year : Int) : List Char :=
  if 0 ≤ year ∧ year < 10000 then Text.padded 4 year.natAbs
  else (if year < 0 then '-' else '+') :: Text.padded 4 year.natAbs

/-- The digits of the year, month, day, hour, minute and second one after another. -/
def compact (m : Moment) : List Char :=
  yearText m.year ++ Text.padded 2 m.month ++ Text.padded 2 m.day
    ++ Text.padded 2 m.hour ++ Text.padded 2 m.minute ++ Text.padded 2 m.second

end Moment

end NewsSearch
