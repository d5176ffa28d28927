import NewsSearch.Text.Digits

/-!
# Numerals in text fields

A numeral is an optional sign and one of: digits with an optional point and at least one digit on
either side of it, optionally with an exponent; `inf` or `infinity`; `nan`. The words may be in
capitals. It stands for the double nearest to it.
-/

namespace NewsSearch.Decimal

/-- Why a text is no numeral. -/
inductive NumeralError
  | empty
  | invalid
deriving DecidableEq, Repr

def NumeralError.message : NumeralError → String
  | .empty => "cannot parse float from empty string"
  | .invalid => "invalid float literal"

/-- Takes a sign: whether it is a minus, and the rest. -/
def takeSign : List Char → Bool × List Char
  | '-' :: cs => (true, cs)
  | '+' :: cs => (false, cs)
  | cs => (false, cs)

/-- The double nearest to `significand · 10 ^ exponent`. Beyond a thousand places the answer is zero
or infinity, whatever the digits. -/
def nearest (significand digitCount : Nat) (exponent : Int) : Float :=
  if significand = 0 then 0.0
  else if 1000 < exponent then 1.0 / 0.0
  else if exponent + digitCount < -1000 then 0.0
  else Float.ofScientific significand (exponent < 0) exponent.natAbs

/-- Reads an exponent, with its mark; no exponent is zero. -/
def readExponent : List Char → Option Int
  | [] => some 0
  | mark :: cs =>
    if mark = 'e' ∨ mark = 'E' then
      let (negative, ds) := takeSign cs
      if Text.isDigits ds then
        some (if negative then -(Text.digitsValue ds : Int) else Text.digitsValue ds)
      else none
    else none

/-- Reads the magnitude of a decimal numeral. -/
def readMagnitude (cs : List Char) : Option Float :=
  let whole := cs.takeWhile Char.isDigit
  let rest := cs.dropWhile Char.isDigit
  let (places, rest) := match rest with
    | '.' :: more => (more.takeWhile Char.isDigit, more.dropWhile Char.isDigit)
    | rest => ([], rest)
  if whole.isEmpty ∧ places.isEmpty then none
  else
    let digits := whole ++ places
    (readExponent rest).map fun e =>
      nearest (Text.digitsValue digits) digits.length (e - places.length)

/-- The double that a numeral stands for. -/
def readNumeral (s : String) : Except NumeralError Float :=
  if s.isEmpty then .error .empty
  else
    let (negative, cs) := takeSign s.toList
    let word := cs.map Char.toLower
    let magnitude :=
      if word = "inf".toList ∨ word = "infinity".toList then some (1.0 / 0.0)
      else if word = "nan".toList then some (0.0 / 0.0)
      else readMagnitude cs
    match magnitude with
    | none => .error .invalid
    | some x => .ok (if negative then -x else x)

end NewsSearch.Decimal
