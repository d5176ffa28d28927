import NewsSearch.Decimal.Shortest
import NewsSearch.Text.Digits

/-!
# How a decimal is written

Positional form with at least one digit on each side of the point while the leading digit's exponent
is in a range. Otherwise one digit, the others after a point, and a signed exponent.
-/

namespace NewsSearch.Decimal

/-- The exponents of the leading digit that are written in positional form. -/
structure Form where
  lowest : Int
  highest : Int
deriving DecidableEq, Repr

def zeros (n : Nat) : List Char := List.replicate n '0'

/-- Positional form of the number whose digits are `ds`, the first with exponent `e`. -/
def positional (ds : List Char) (e : Int) : List Char :=
  if e < 0 then '0' :: '.' :: zeros (-e - 1).toNat ++ ds
  else if ds.length ≤ e.toNat + 1 then ds ++ zeros (e.toNat + 1 - ds.length) ++ ['.', '0']
  else ds.take (e.toNat + 1) ++ '.' :: ds.drop (e.toNat + 1)

/-- The digits with a point after the first, if more follow. -/
def pointed : List Char → List Char
  | d :: e :: more => d :: '.' :: e :: more
  | ds => ds

/-- Scientific form of the number whose digits are `ds`, the first with exponent `e`. -/
def scientific (ds : List Char) (e : Int) : List Char :=
  pointed ds ++ 'e' :: (if e < 0 then '-' else '+') :: Text.decimal e.natAbs

def Scaled.write (form : Form) (d : Scaled) : List Char :=
  let ds := Text.decimal d.digits
  let e := d.exponent + (ds.length - 1 : Nat)
  if form.lowest ≤ e ∧ e ≤ form.highest then positional ds e else scientific ds e

/-- The text of a finite double: its sign, also of zero, and its shortest decimal. -/
def writeDouble (form : Form) (x : Float) : List Char :=
  let bits := x.toBits
  let magnitude := (Binary.ofBits bits).shortest.write form
  if bits.toNat / 0x8000000000000000 = 1 then '-' :: magnitude else magnitude

end NewsSearch.Decimal
