import NewsSearch.Filter.FilterError
import NewsSearch.Text.Digits

/-!
# Timespans

A timespan is digits followed by a unit, such as `90min`, `1h` or `3days`. A span in minutes covers
at least an hour. The digits may be of any length.
-/

namespace NewsSearch

inductive TimespanUnit
  | minutes
  | hours
  | days
  | weeks
  | months
deriving DecidableEq, Repr

/-- The spellings of the units. -/
def TimespanUnit.ofToken? (token : String) : Option TimespanUnit :=
  if token = "min" then some .minutes
  else if token = "h" ∨ token = "hours" then some .hours
  else if token = "d" ∨ token = "days" then some .days
  else if token = "w" ∨ token = "weeks" then some .weeks
  else if token = "m" ∨ token = "months" then some .months
  else none

/-- A span of time: the digits and the whole text as they were written. -/
structure Timespan where
  quantity : String
  unit : TimespanUnit
  text : String
deriving DecidableEq, Repr

namespace Timespan

/-- The minutes that a span in minutes must have. -/
def minMinutes : UInt64 := 60

/-- Whether digits stand for fewer minutes than a span must have. Too many digits for a number are
enough. -/
def isTooShort (digits : List Char) : Bool := (Text.word64? digits).any (· < minMinutes)

def parse (text : String) : Except FilterError Timespan :=
  let digits := text.toList.takeWhile Char.isDigit
  let letters := text.toList.dropWhile Char.isDigit
  if digits.isEmpty ∨ letters.isEmpty ∨ ¬ letters.all Char.isLower then
    .error (.timespanUnparseable text)
  else
    let token := String.ofList letters
    match TimespanUnit.ofToken? token with
    | none => .error (.timespanUnit text token)
    | some unit =>
      if unit = .minutes ∧ isTooShort digits then .error (.timespanTooShort text)
      else .ok ⟨String.ofList digits, unit, text⟩

end Timespan

end NewsSearch
