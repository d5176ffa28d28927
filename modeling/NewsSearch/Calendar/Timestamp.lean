import NewsSearch.Calendar.Instant
import NewsSearch.Filter.FilterError

/-!
# Timestamps

The API takes the ends of a date range as fourteen digits, year to second. A date may be given in
that form, as an instant, or in one of the layouts. A text of the shape `DDDD-DD-DD` is taken even
if there is no such day.
-/

namespace NewsSearch

namespace Calendar

/-- Whether a text is fourteen digits. -/
def isCompact (cs : List Char) : Bool := cs.length == 14 && cs.all Char.isDigit

/-- The moment that a date text stands for. -/
def parseMoment (cs : List Char) : Option Moment :=
  (parseInstant cs).or (layouts.findSome? (·.parse cs))

/-- Whether a text is of the shape `DDDD-DD-DD`. -/
def isDashed (cs : List Char) : Bool :=
  match cs with
  | [a, b, c, d, s, e, f, t, g, h] =>
    s == '-' && t == '-' && [a, b, c, d, e, f, g, h].all Char.isDigit
  | _ => false

end Calendar

open Calendar in
/-- The timestamp of a date. -/
def formatDate (date : String) : Except FilterError String :=
  let cs := date.toList
  if isCompact cs then .ok date
  else
    match parseMoment (Text.trim date).toList with
    | some moment => .ok (String.ofList moment.compact)
    | none =>
      if isDashed cs then .ok (String.ofList (cs.filter (· != '-') ++ List.replicate 6 '0'))
      else .error (.unsupportedDate date)

end NewsSearch
