import NewsSearch.Json.Members

/-!
# JSON values

A number is an integer when its text has neither point nor exponent and fits 64 bits, otherwise a
double. The minus zero is a double.
-/

namespace NewsSearch.Json

inductive Number
  | integer (n : Int)
  | real (x : Float)
deriving DecidableEq, Repr

inductive Value
  | null
  | bool (b : Bool)
  | number (n : Number)
  | string (s : String)
  | array (items : List Value)
  | object (members : List (String × Value))
deriving Repr, Inhabited

abbrev Members := List (String × Value)

/-- The double nearest to a number. -/
def Number.toFloat : Number → Float
  | .integer (.ofNat n) => Float.ofNat n
  | .integer (.negSucc n) => -Float.ofNat (n + 1)
  | .real x => x

/-- A double as a value. JSON has no text for the infinities and for what is no number. -/
def Value.ofFloat (x : Float) : Value := if x.isFinite then .number (.real x) else .null

def Value.ofOption (f : α → Value) : Option α → Value
  | none => .null
  | some a => f a

end NewsSearch.Json
