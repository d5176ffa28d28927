import NewsSearch.Text.Charset.Table

/-!
# Units of 16 bits

The charsets in which two bytes are a unit of 16 bits. A unit is a character, or two units in the
ranges of the surrogates are.
-/

namespace NewsSearch.Text

/-- Which byte of a unit comes first. -/
inductive ByteOrder
  | lowFirst
  | highFirst
deriving DecidableEq, Repr

def ByteOrder.unit (order : ByteOrder) (first second : UInt8) : Nat :=
  match order with
  | .lowFirst => second.toNat * 256 + first.toNat
  | .highFirst => first.toNat * 256 + second.toNat

def isLeadingUnit (n : Nat) : Bool := 0xD800 ≤ n && n ≤ 0xDBFF
def isTrailingUnit (n : Nat) : Bool := 0xDC00 ≤ n && n ≤ 0xDFFF

/-- The characters that bytes stand for. A surrogate without its partner is a fault, and so is what
is left at the end. -/
def decodeUnits (order : ByteOrder) : List UInt8 → List Char
  | [] => []
  | [_] => [fault]
  | a :: b :: rest =>
    let unit := order.unit a b
    if isTrailingUnit unit then fault :: decodeUnits order rest
    else if isLeadingUnit unit then
      match rest with
      | c :: d :: more =>
        let next := order.unit c d
        if isTrailingUnit next then
          Char.ofNat (0x10000 + (unit - 0xD800) * 0x400 + (next - 0xDC00))
            :: decodeUnits order more
        else fault :: decodeUnits order (c :: d :: more)
      | _ => [fault]
    else Char.ofNat unit :: decodeUnits order rest

end NewsSearch.Text
