/-!
# Percent encoding

Characters that may not stand in a place are written byte by byte, each byte as `%` and two capital
hexadecimal digits. Which characters may stand there depends on the place.
-/

namespace NewsSearch.Text.Percent

/-- The characters that stand for themselves wherever they are: letters, digits and four marks. -/
def isUnreserved (c : Char) : Bool :=
  c.isAlphanum || c == '-' || c == '_' || c == '.' || c == '~'

/-- The capital hexadecimal digit of a number below sixteen. -/
def hexDigit (n : Nat) : Char := if n < 10 then Char.ofNat (48 + n) else Char.ofNat (55 + n)

def encodeByte (b : UInt8) : List Char :=
  ['%', hexDigit (b.toNat / 16), hexDigit (b.toNat % 16)]

/-- One character, where those that are `kept` may stand. -/
def encodeChar (kept : Char → Bool) (c : Char) : List Char :=
  if kept c then [c] else (String.utf8EncodeChar c).flatMap encodeByte

def encodeChars (kept : Char → Bool) (cs : List Char) : List Char := cs.flatMap (encodeChar kept)

/-- A value with only its unreserved characters as they are. -/
def encode (s : String) : String := String.ofList (encodeChars isUnreserved s.toList)

end NewsSearch.Text.Percent
