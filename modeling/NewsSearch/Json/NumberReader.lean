import NewsSearch.Json.Value
import NewsSearch.Json.Cause

/-!
# Reading a JSON number

A number is read digit by digit. The digits make up a significand of at most 64 bits: whole digits
beyond that only shift the point, decimals beyond that are dropped. A number with neither point nor
exponent that fits 64 bits is an integer. Any other is the significand, rounded to a double, then
multiplied or divided once by a rounded power of ten. So the last place is not always the nearest.
-/

namespace NewsSearch.Json

/-- How far a number has been read. -/
inductive NumberReader.Phase
  /-- After the minus sign -/
  | minus
  /-- After a leading zero -/
  | zero
  /-- Among the whole digits -/
  | whole
  /-- Among whole digits that no longer fit -/
  | wholeFull
  /-- After the point -/
  | point
  /-- Among the decimals -/
  | decimals
  /-- Among decimals that no longer fit -/
  | decimalsFull
  /-- After the exponent mark -/
  | mark
  /-- After the sign of the exponent -/
  | sign
  /-- Among the digits of the exponent -/
  | exponent
deriving DecidableEq, Repr

/-- A number of which some characters have been read: its value so far is
`± significand · 10 ^ (shift ± power)`. -/
structure NumberReader where
  negative : Bool
  phase : NumberReader.Phase
  significand : Nat
  shift : Int
  powerNegative : Bool
  power : Nat
deriving DecidableEq, Repr

namespace NumberReader

/-- The largest exponent that is read before a number is known to be out of range. -/
def maxPower : Nat := 2147483647

/-- The first number that does not fit the significand. -/
def significandLimit : Nat := UInt64.size

def digit? (c : Char) : Option Nat := if c.isDigit then some (c.toNat - 48) else none

/-- A number that starts with a minus sign. -/
def minus : NumberReader := ⟨true, .minus, 0, 0, false, 0⟩

/-- A number after its first digit. -/
def start (negative : Bool) (d : Nat) : NumberReader :=
  ⟨negative, if d = 0 then .zero else .whole, d, 0, false, 0⟩

/-- The same number with one more decimal. -/
def addDecimal (n : NumberReader) (d : Nat) : NumberReader :=
  if n.significand * 10 + d < significandLimit then
    { n with phase := .decimals, significand := n.significand * 10 + d, shift := n.shift - 1 }
  else { n with phase := .decimalsFull }

/-- The same number with one more digit in its exponent. A skipped number is not checked. -/
def addPower (strict : Bool) (n : NumberReader) (d : Nat) : Except Cause (Option NumberReader) :=
  let power := n.power * 10 + d
  if strict ∧ maxPower < power ∧ n.significand ≠ 0 ∧ ¬ n.powerNegative then
    .error .numberOutOfRange
  else .ok (some { n with phase := .exponent, power })

/-- What a point or an exponent mark leads to, where either may stand. -/
def pointOrMark (n : NumberReader) (c : Char) : Option NumberReader :=
  if c = '.' then some { n with phase := .point }
  else if c = 'e' ∨ c = 'E' then some { n with phase := .mark }
  else none

/-- What an exponent mark leads to, where a point may not stand. -/
def markOnly (n : NumberReader) (c : Char) : Option NumberReader :=
  if c = 'e' ∨ c = 'E' then some { n with phase := .mark } else none

/-- Reads one more character of a number. `none` when the number ended before it. -/
def step (strict : Bool) (n : NumberReader) (c : Char) : Except Cause (Option NumberReader) :=
  match n.phase, digit? c with
  | .minus, some d => .ok (some (start true d))
  | .minus, none => .error .invalidNumber
  | .zero, some _ => .error .invalidNumber
  | .zero, none => .ok (n.pointOrMark c)
  | .whole, some d =>
    if n.significand * 10 + d < significandLimit then
      .ok (some { n with significand := n.significand * 10 + d })
    else .ok (some { n with phase := .wholeFull, shift := 1 })
  | .whole, none => .ok (n.pointOrMark c)
  | .wholeFull, some _ => .ok (some { n with shift := n.shift + 1 })
  | .wholeFull, none => .ok (n.pointOrMark c)
  | .point, some d => .ok (some (n.addDecimal d))
  | .point, none => .error .invalidNumber
  | .decimals, some d => .ok (some (n.addDecimal d))
  | .decimals, none => .ok (n.markOnly c)
  | .decimalsFull, some _ => .ok (some n)
  | .decimalsFull, none => .ok (n.markOnly c)
  | .mark, some d => n.addPower strict d
  | .mark, none =>
    if c = '+' then .ok (some { n with phase := .sign })
    else if c = '-' then .ok (some { n with phase := .sign, powerNegative := true })
    else .error .invalidNumber
  | .sign, some d => n.addPower strict d
  | .sign, none => .error .invalidNumber
  | .exponent, some d => n.addPower strict d
  | .exponent, none => .ok none

/-- Whether a number may end here. -/
def isComplete (n : NumberReader) : Bool :=
  match n.phase with
  | .minus | .point | .mark | .sign => false
  | _ => true

/-- The double nearest to a power of ten. -/
def powerOfTen (k : Nat) : Float := Float.ofScientific 1 false k

/-- Divides by a power of ten, at most by `10 ^ 308` at a time. -/
def lower (f : Float) (k : Nat) : Float :=
  if k ≤ 308 then f / powerOfTen k
  else if f == 0.0 then f
  else lower (f / powerOfTen 308) (k - 308)
termination_by k

/-- Multiplies by a power of ten, if the result is finite. -/
def raise (f : Float) (k : Nat) : Option Float :=
  if k ≤ 308 then
    let r := f * powerOfTen k
    if r.isInf then none else some r
  else if f == 0.0 then some f
  else none

/-- `f · 10 ^ e`, if it is finite. -/
def scale (f : Float) (e : Int) : Option Float :=
  if e < 0 then some (lower f e.natAbs) else raise f e.toNat

/-- The double that the parts stand for, if it is finite. -/
def double? (n : NumberReader) : Option Number :=
  let power : Int := if n.powerNegative then -(n.power : Int) else n.power
  (scale (Float.ofNat n.significand) (n.shift + power)).map fun f =>
    .real (if n.negative then -f else f)

/-- The number that has been read, if it is in range. -/
def value? (n : NumberReader) : Option Number :=
  match n.phase with
  | .zero | .whole =>
    if ¬ n.negative then some (.integer n.significand)
    else if n.significand = 0 ∨ 0x8000000000000000 < n.significand then
      some (.real (-Float.ofNat n.significand))
    else some (.integer (-(n.significand : Int)))
  | _ => n.double?

end NumberReader

end NewsSearch.Json
