import NewsSearch.Calendar.Moment
import NewsSearch.Text.Blank

/-!
# Date layouts

A layout says in which order the parts of a date stand and what is between them. Numbers may have
blanks in front and need not be padded, and a gap is any number of blanks, also none.
-/

namespace NewsSearch

namespace Calendar

inductive Part
  | year
  | month
  | day
  | hour
  | minute
  | second
  /-- The English name of a month, in full or its first three letters -/
  | monthName
  | gap
  | mark (c : Char)
deriving DecidableEq, Repr

abbrev Layout := List Part

/-- The date in digits with a separator, the time after a `T` or a gap, and the two layouts with
the month's name. The first layout that fits is taken. -/
def layouts : List Layout :=
  let dashed : Layout := [.year, .mark '-', .month, .mark '-', .day]
  let slashed : Layout := [.year, .mark '/', .month, .mark '/', .day]
  let minutes : Layout := [.hour, .mark ':', .minute]
  let seconds : Layout := minutes ++ [.mark ':', .second]
  [dashed ++ .mark 'T' :: seconds,
   dashed ++ .gap :: seconds,
   dashed ++ .mark 'T' :: minutes,
   dashed ++ .gap :: minutes,
   slashed ++ .gap :: seconds,
   slashed ++ .gap :: minutes,
   dashed,
   slashed,
   [.day, .gap, .monthName, .gap, .year],
   [.monthName, .gap, .day, .mark ',', .gap, .year]]

/-- Takes digits, at most `max` of them and at least one. -/
def takeNumber (max : Nat) (cs : List Char) : Option (Nat × List Char) :=
  let ds := (cs.take max).takeWhile Char.isDigit
  if ds.isEmpty then none else some (Text.digitsValue ds, cs.drop ds.length)

/-- A year of at most four digits, or a sign and any number of digits. -/
def takeYear (cs : List Char) : Option (Int × List Char) :=
  match cs with
  | '-' :: cs => (takeNumber cs.length cs).map fun r => (-(r.1 : Int), r.2)
  | '+' :: cs => (takeNumber cs.length cs).map fun r => ((r.1 : Int), r.2)
  | cs => (takeNumber 4 cs).map fun r => ((r.1 : Int), r.2)

/-- The months: the first three letters of the name and the rest. -/
def monthNames : List (String × String) :=
  [("jan", "uary"), ("feb", "ruary"), ("mar", "ch"), ("apr", "il"), ("may", ""), ("jun", "e"),
   ("jul", "y"), ("aug", "ust"), ("sep", "tember"), ("oct", "ober"), ("nov", "ember"),
   ("dec", "ember")]

/-- Takes a word, in small letters or capitals. -/
def takeWord (word : String) (cs : List Char) : Option (List Char) :=
  let n := word.length
  if (cs.take n).map Char.toLower = word.toList then some (cs.drop n) else none

/-- Takes the name of the first month that fits, numbered from `n`. -/
def takeMonthName (cs : List Char) : (n : Nat) → List (String × String) → Option (Nat × List Char)
  | _, [] => none
  | n, (short, rest) :: names =>
    match takeWord short cs with
    | some more => some (n, (takeWord rest more).getD more)
    | none => takeMonthName cs (n + 1) names

/-- Reads one part into a moment. -/
def Part.read (p : Part) (m : Moment) (cs : List Char) : Option (Moment × List Char) :=
  let number := takeNumber 2 (Text.trimStart cs)
  match p with
  | .year => (takeYear (Text.trimStart cs)).map fun r => ({ m with year := r.1 }, r.2)
  | .month => number.map fun r => ({ m with month := r.1 }, r.2)
  | .day => number.map fun r => ({ m with day := r.1 }, r.2)
  | .hour => number.map fun r => ({ m with hour := r.1 }, r.2)
  | .minute => number.map fun r => ({ m with minute := r.1 }, r.2)
  | .second => number.map fun r => ({ m with second := r.1 }, r.2)
  | .monthName => (takeMonthName cs 1 monthNames).map fun r => ({ m with month := r.1 }, r.2)
  | .gap => some (m, Text.trimStart cs)
  | .mark c =>
    match cs with
    | c' :: rest => if c' = c then some (m, rest) else none
    | [] => none

/-- Reads the parts of a layout up to the end of the text. -/
def Layout.read : Layout → Moment → List Char → Option Moment
  | [], m, cs => if cs.isEmpty then some m else none
  | p :: ps, m, cs =>
    match p.read m cs with
    | none => none
    | some (m, rest) => Layout.read ps m rest

/-- The moment that a text in this layout stands for, at midnight if it has no time. -/
def Layout.parse (layout : Layout) (cs : List Char) : Option Moment :=
  (layout.read ⟨0, 1, 1, 0, 0, 0⟩ cs).filter Moment.isValid

end Calendar

end NewsSearch
