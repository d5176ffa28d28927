import NewsSearch.Timeline.Series
import NewsSearch.Mode

/-!
# Timeline rows

Parallel series are turned into one row per point in time. A row has a column for each series.
-/

namespace NewsSearch

namespace Timeline

open Json Decode

/-- A point in time and a value per series, in the order of the series. -/
structure Row where
  datetime : String
  columns : Members

namespace Row

/-- The column with the number of all articles. -/
def totalColumn : String := "All Articles"

/-- The name and the value of each series that has a point `i`. A missing value is zero. -/
def pairsAt (series : List Series) (i : Nat) : List (String × Value) :=
  series.filterMap fun s => s.points[i]?.map fun p => (s.name, Value.ofFloat (p.value.getD 0.0))

/-- Adds the number of all articles, where it is given and asked for. -/
def addTotal (mode : TimelineMode) (axis : Point) (columns : Members) : Members :=
  match mode, axis.norm with
  | .rawVolume, some norm => put totalColumn (.ofFloat norm) columns
  | _, _ => columns

/-- The row at point `i` of the first series. -/
def ofPoint (series : List Series) (mode : TimelineMode) (i : Nat) (axis : Point) : Row :=
  ⟨axis.date, addTotal mode axis (ofPairs (pairsAt series i))⟩

/-- One row per point of the first series. -/
def ofSeries (series : List Series) (mode : TimelineMode) : List Row :=
  match series with
  | [] => []
  | first :: _ => first.points.mapIdx fun i axis => ofPoint series mode i axis

/-! ## As JSON -/

def toValue (r : Row) : Value := .object (("datetime", .string r.datetime) :: r.columns)

/-- Rows as a JSON list. -/
def listValue (rows : List Row) : Value := .array (rows.map toValue)

/-- A row of which the datetime may still be missing. -/
structure Partial where
  datetime : Option String
  columns : Members

def fields : List (Decode.Field Partial) :=
  [.of "datetime" [] .string fun v p => { p with datetime := some v }]

/-- Every member but the datetime is a column. -/
def readColumn (key : String) (room : Nat) (cs : List Char) :
    Except Problem ((Partial → Partial) × List Char) := do
  let (v, rest) ← readValue room cs
  return (fun p => { p with columns := put key v p.columns }, rest)

def ofText (room : Nat) (cs : List Char) : Except Problem (Row × List Char) :=
  match Reader.skipSpaces cs with
  | [] => .error (.fault .endInValue)
  | '{' :: rest => do
    let room ← openBracket room
    let (p, rest) ←
      Record.membersOfText fields readColumn room (rest.length + 1) true [] ⟨none, []⟩ rest
    match p.datetime with
    | some datetime => return (⟨datetime, p.columns⟩, rest)
    | none => .error (.missingField "datetime")
  | cs => .error (mismatch room "struct TimelineRecord" cs)

def decode (s : String) : Except Problem Row := wholeText ofText s

end Row

end Timeline

end NewsSearch
