import NewsSearch.Decode.Decoder
import NewsSearch.Decimal.Numeral
import NewsSearch.Text.Blank

/-!
# Timeline series

A timeline answer is a list of series, each a row of points in time. Its fields are loosely typed: a
number may be a text, a date may be a number, and anything may be missing or null.
-/

namespace NewsSearch

namespace Timeline

open Json Decode

structure Point where
  date : String
  value : Option Float
  norm : Option Float
deriving DecidableEq, Repr

/-- Point `i` of every series is at the same time as point `i` of the first. -/
structure Series where
  name : String
  points : List Point
deriving DecidableEq, Repr

/-- The name of a series without one. -/
def unknownName : String := "Unknown"

/-- A number, a numeral, or nothing. -/
def looseNumber : Value → Except Problem (Option Float)
  | .null => .ok none
  | .number n => .ok (some n.toFloat)
  | .string s =>
    if Text.allBlank s then .ok none
    else match Decimal.readNumeral (Text.trim s) with
      | .ok x => .ok (some x)
      | .error e => .error (.other s!"invalid numeric string '{s}': {e.message}")
  | _ => .error (.other "value must be a number, numeric string or null")

/-- A text, the text of a number, or the empty text for null. -/
def looseText : Value → Except Problem String
  | .null => .ok ""
  | .string s => .ok s
  | .number n => .ok (String.ofList (Printer.numberText n))
  | _ => .error (.other "value must be a string, number or null")

/-- The name of a series, which may be null or empty. -/
def seriesName (name : Option String) : String :=
  match name.filter (· != "") with
  | some name => name
  | none => unknownName

namespace Point

def empty : Point := ⟨"", none, none⟩

def toValue (p : Point) : Value :=
  .object
    [("date", .string p.date), ("value", Value.ofOption .ofFloat p.value),
     ("norm", Value.ofOption .ofFloat p.norm)]

def fields : List (Decode.Field Point) :=
  [.of "date" [] (Decoder.value.refine looseText) fun v p => { p with date := v },
   .of "value" [] (Decoder.value.refine looseNumber) fun v p => { p with value := v },
   .of "norm" [] (Decoder.value.refine looseNumber) fun v p => { p with norm := v }]

def record : Record Point := ⟨"struct TimelinePoint", empty, fields⟩

def decoder : Decoder Point := record.decoder

def decode (s : String) : Except Problem Point := decoder.decode s

end Point

namespace Series

def empty : Series := ⟨unknownName, []⟩

def toValue (s : Series) : Value :=
  .object [("series", .string s.name), ("data", .array (s.points.map Point.toValue))]

/-- Series as a JSON list. -/
def listValue (series : List Series) : Value := .array (series.map toValue)

def fields : List (Decode.Field Series) :=
  [.of "series" [] (Decoder.string.nullable.map seriesName) fun v s => { s with name := v },
   .of "data" [] (Point.decoder.list.nullable.map (·.getD [])) fun v s => { s with points := v }]

def record : Record Series := ⟨"struct TimelineSeries", empty, fields⟩

def decoder : Decoder Series := record.decoder

def decode (s : String) : Except Problem Series := decoder.decode s

def decodeList (s : String) : Except Problem (List Series) := decoder.list.decode s

/-- The series of an answer. Without a timeline there are none; one of the wrong shape is an
error. -/
def ofPayload (payload : Members) : Except Problem (List Series) :=
  match get? "timeline" payload with
  | none => .ok []
  | some .null => .ok []
  | some v => decoder.list.ofValue v

end Series

end Timeline

end NewsSearch
