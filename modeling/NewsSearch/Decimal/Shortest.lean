import NewsSearch.Text.Digits

/-!
# The shortest decimal of a double

A finite double stands for every real number that rounds to it. Of the decimals in that interval
this module finds one with the fewest digits, and of those the one nearest to the double itself. The
arithmetic is exact, on natural numbers.
-/

namespace NewsSearch.Decimal

/-- The number `digits · 10 ^ exponent`. -/
structure Scaled where
  digits : Nat
  exponent : Int
deriving DecidableEq, Repr

/-- A positive double, `mantissa · 2 ^ exponent`. It is `narrow` when the double below it is only
half as far away as the one above, which happens at the powers of two. -/
structure Binary where
  mantissa : Nat
  exponent : Int
  narrow : Bool
deriving DecidableEq, Repr

/-- The magnitude of a finite double, from its bits. -/
def Binary.ofBits (bits : UInt64) : Binary :=
  let fraction : Nat := bits.toNat % 0x10000000000000
  let biased : Nat := bits.toNat / 0x10000000000000 % 0x800
  if biased = 0 then ⟨fraction, -1074, false⟩
  else ⟨0x10000000000000 + fraction, (biased : Int) - 1075, fraction == 0 && 1 < biased⟩

/-- The numerator of `n · 2 ^ q / 10 ^ k`, over the denominator `gridDen q k`. -/
def gridNum (n : Nat) (q k : Int) : Nat :=
  n * Nat.pow 2 q.toNat * Nat.pow 10 (-k).toNat

/-- The denominator that `gridNum` is over. -/
def gridDen (q k : Int) : Nat := Nat.pow 2 (-q).toNat * Nat.pow 10 k.toNat

/-- The multiple of `10 ^ k` that stands for `b`, if there is one: the nearer of the two neighbours
of `b` on that grid, the even one of two that are equally near. -/
def Binary.onGrid? (b : Binary) (k : Int) : Option Nat :=
  -- Quarters of the last place, so that the ends of the interval are whole.
  let q := b.exponent - 2
  let den := gridDen q k
  let self := gridNum (4 * b.mantissa) q k
  let low := gridNum (4 * b.mantissa - if b.narrow then 1 else 2) q k
  let high := gridNum (4 * b.mantissa + 2) q k
  let closed := b.mantissa % 2 == 0
  let below := self / den
  let above := below + 1
  let lowHit := 0 < below && (low < below * den || closed && low == below * den)
  let highHit := above * den < high || closed && above * den == high
  let toBelow := self - below * den
  let toAbove := above * den - self
  if lowHit && (!highHit || toBelow < toAbove || toBelow == toAbove && below % 2 == 0) then
    some below
  else if highHit then some above
  else none

/-- The exponent of the leading decimal digit. -/
def Binary.magnitude (b : Binary) : Int :=
  (Text.decimal (gridNum b.mantissa b.exponent (-350) / gridDen b.exponent (-350))).length - 351

/-- Moves the final zeros of the digits into the exponent. At most `fuel` of them. -/
def Scaled.stripZeros : Nat → Scaled → Scaled
  | 0, d => d
  | fuel + 1, d =>
    if d.digits % 10 = 0 then stripZeros fuel ⟨d.digits / 10, d.exponent + 1⟩ else d

/-- The first grid with a hit, from the coarsest to one with seventeen digits. -/
def Binary.search (b : Binary) (top : Int) : Nat → Scaled
  | 0 => ⟨0, 0⟩
  | left + 1 =>
    let k := top - (16 - left : Nat)
    match b.onGrid? k with
    | some digits => Scaled.stripZeros 17 ⟨digits, k⟩
    | none => b.search top left

/-- The shortest decimal that reads back as the positive double `b`. Zero gives zero. -/
def Binary.shortest (b : Binary) : Scaled :=
  if b.mantissa = 0 then ⟨0, 0⟩ else b.search b.magnitude 17

end NewsSearch.Decimal
