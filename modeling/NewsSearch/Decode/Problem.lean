import NewsSearch.Json.Printer
import NewsSearch.Json.Cause
import NewsSearch.Text.Quoted

/-!
# Why JSON does not decode

A text or a value that is not of the shape asked for. The first problem in the order of the text is
the one that is reported.
-/

namespace NewsSearch.Decode

open Json

/-- What stands where something else was expected. -/
inductive Found
  | null
  | bool (b : Bool)
  | number (n : Number)
  | text (s : String)
  | sequence
  | map
deriving DecidableEq, Repr

def Found.ofValue : Value → Found
  | .null => .null
  | .bool b => .bool b
  | .number n => .number n
  | .string s => .text s
  | .array _ => .sequence
  | .object _ => .map

def Found.message : Found → String
  | .null => "null"
  | .bool b => s!"boolean `{b}`"
  | .number (.integer n) => s!"integer `{String.ofList (Printer.numberText (.integer n))}`"
  | .number (.real x) => s!"floating point `{String.ofList (Printer.numberText (.real x))}`"
  | .text s => "string " ++ Text.quoted s
  | .sequence => "sequence"
  | .map => "map"

/-- Why a value is not of the shape asked for. -/
inductive Problem
  /-- The text is no JSON -/
  | fault (cause : Cause)
  | wrongType (found : Found) (expected : String)
  | wrongValue (found : Found) (expected : String)
  | duplicateField (name : String)
  | missingField (name : String)
  | unknownVariant (name : String) (known : List String)
  /-- A list that stands for fields in order has more items than there are fields -/
  | surplus (length : Nat)
  /-- Any other problem, in its own words -/
  | other (message : String)
deriving DecidableEq, Repr

def Problem.message : Problem → String
  | .fault cause => cause.message
  | .wrongType found expected => s!"invalid type: {found.message}, expected {expected}"
  | .wrongValue found expected => s!"invalid value: {found.message}, expected {expected}"
  | .duplicateField name => s!"duplicate field `{name}`"
  | .missingField name => s!"missing field `{name}`"
  | .unknownVariant name known =>
    let names := ", ".intercalate (known.map fun k => s!"`{k}`")
    s!"unknown variant `{name}`, expected one of {names}"
  | .surplus length => s!"invalid length {length}, expected fewer elements in array"
  | .other message => message

def Problem.category : Problem → Category
  | .fault cause => cause.category
  | _ => .mismatched

end NewsSearch.Decode
