import NewsSearch.Calendar.Layout

/-!
# Instants with an offset

The layout of RFC 3339: a date, `T` or `t` or a space, a time with seconds and perhaps decimals of a
second, and `Z`, `z` or the offset from universal time in hours and minutes. Every number has a
fixed width. The instant is given in universal time.
-/

namespace NewsSearch

namespace Calendar

/-- Takes exactly `width` digits. -/
def takeFixed (width : Nat) (cs : List Char) : Option (Nat × List Char) :=
  let ds := cs.take width
  if ds.length = width ∧ ds.all Char.isDigit then some (Text.digitsValue ds, cs.drop width)
  else none

def takeMark (c : Char) (cs : List Char) : Option (List Char) :=
  match cs with
  | c' :: rest => if c' = c then some rest else none
  | [] => none

/-- Takes the decimals of a second, if there are any. They do not count. -/
def takeDecimals (cs : List Char) : Option (List Char) :=
  match cs with
  | '.' :: rest =>
    if (rest.takeWhile Char.isDigit).isEmpty then none else some (rest.dropWhile Char.isDigit)
  | cs => some cs

/-- Hours and minutes of an offset, in minutes. -/
def takeClock (cs : List Char) : Option (Int × List Char) := do
  let (hours, cs) ← takeFixed 2 cs
  let cs ← takeMark ':' cs
  let (minutes, cs) ← takeFixed 2 cs
  if hours ≤ 23 ∧ minutes ≤ 59 then some ((hours * 60 + minutes : Nat), cs) else none

/-- The offset from universal time, in minutes. The minus may also be U+2212. -/
def takeOffset (cs : List Char) : Option (Int × List Char) :=
  match cs with
  | [] => none
  | c :: rest =>
    if c = 'Z' ∨ c = 'z' then some (0, rest)
    else if c = '+' then takeClock rest
    else if c = '-' ∨ c = '\u2212' then (takeClock rest).map fun r => (-r.1, r.2)
    else none

/-- Takes a date, at midnight. -/
def takeDate (cs : List Char) : Option (Moment × List Char) := do
  let (year, cs) ← takeFixed 4 cs
  let cs ← takeMark '-' cs
  let (month, cs) ← takeFixed 2 cs
  let cs ← takeMark '-' cs
  let (day, cs) ← takeFixed 2 cs
  return (⟨year, month, day, 0, 0, 0⟩, cs)

/-- Takes a time of day. -/
def takeTime (date : Moment) (cs : List Char) : Option (Moment × List Char) := do
  let (hour, cs) ← takeFixed 2 cs
  let cs ← takeMark ':' cs
  let (minute, cs) ← takeFixed 2 cs
  let cs ← takeMark ':' cs
  let (second, cs) ← takeFixed 2 cs
  let cs ← takeDecimals cs
  return ({ date with hour, minute, second }, cs)

/-- The moment in universal time that a text in this layout stands for. -/
def parseInstant (cs : List Char) : Option Moment := do
  let (date, cs) ← takeDate cs
  let cs ← takeMark 'T' cs <|> takeMark 't' cs <|> takeMark ' ' cs
  let (moment, cs) ← takeTime date cs
  let (offset, cs) ← takeOffset cs
  if cs.isEmpty ∧ moment.isValid then some (moment.minusMinutes offset) else none

end Calendar

end NewsSearch
