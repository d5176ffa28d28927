import NewsSearch.Text.Charset.DoubleByte

/-!
# Japanese codes with several sets

One code has a byte in front of the characters of its further sets. The other has only bytes of
ASCII, and escape sequences that switch between its sets.
-/

namespace NewsSearch.Text

/-! ## Sets by a byte in front -/

/-- Whether a byte is half of a pair. -/
def isKanjiByte (b : UInt8) : Bool := 0xA1 ≤ b && b ≤ 0xFE

/-- The character of a pair in a table of 94 rows of 94, if both bytes are halves of a pair. -/
def rowChar? (table : Array Char) (lead trail : UInt8) : Option Char :=
  if isKanjiByte lead && isKanjiByte trail then
    charAt? table ((lead.toNat - 0xA1) * 94 + (trail.toNat - 0xA1))
  else none

/-- The character of a lead byte and the byte after it. -/
def extendedPair? (lead trail : UInt8) : Option Char :=
  if lead = 0x8E then
    if 0xA1 ≤ trail && trail ≤ 0xDF then some (DoubleByte.halfWidth trail.toNat) else none
  else rowChar? kanjiTable lead trail

/-- Whether a byte is not a character of its own. -/
def isExtendedLead (b : UInt8) : Bool := b == 0x8E || b == 0x8F || isKanjiByte b

/-- Reads the extended Japanese code: 8E is in front of a half-width character and 8F in front of a
pair of the supplement. -/
def decodeExtended : List UInt8 → List Char
  | [] => []
  | [b] => [if isExtendedLead b then fault else asciiOrFault b]
  | [b, t] =>
    if b = 0x8F ∧ isKanjiByte t then [fault]
    else if isExtendedLead b then
      match extendedPair? b t with
      | some c => [c]
      | none => fault :: (if t < 0x80 then decodeExtended [t] else [])
    else asciiOrFault b :: decodeExtended [t]
  | b :: t :: u :: rest =>
    if b = 0x8F ∧ isKanjiByte t then
      match rowChar? supplementTable t u with
      | some c => c :: decodeExtended rest
      | none => fault :: (if u < 0x80 then decodeExtended (u :: rest) else decodeExtended rest)
    else if isExtendedLead b then
      match extendedPair? b t with
      | some c => c :: decodeExtended (u :: rest)
      | none =>
        fault :: (if t < 0x80 then decodeExtended (t :: u :: rest) else decodeExtended (u :: rest))
    else asciiOrFault b :: decodeExtended (t :: u :: rest)

/-! ## Sets by escape sequences -/

/-- The sets that an escape sequence may switch to. -/
inductive SwitchedSet
  | ascii
  /-- ASCII with a yen sign and an overline -/
  | roman
  | halfWidth
  /-- Pairs of JIS X 0208 -/
  | kanji
deriving DecidableEq, Repr

/-- The character of one byte in a set that has no pairs. -/
def SwitchedSet.single (set : SwitchedSet) (b : UInt8) : Char :=
  if set = .halfWidth then
    if 0x21 ≤ b && b ≤ 0x5F then Char.ofNat (0xFF61 + (b.toNat - 0x21)) else fault
  else if b = 0x0E ∨ b = 0x0F then fault
  else if set = .roman ∧ b = 0x5C then '¥'
  else if set = .roman ∧ b = 0x7E then '‾'
  else asciiOrFault b

/-- Whether a byte may be half of a pair. -/
def isPlainHalf (b : UInt8) : Bool := 0x21 ≤ b && b ≤ 0x7E

/-- Reads the switching Japanese code. `idle` says that the last thing read was an escape sequence;
another one after it is a fault. -/
def decodeSwitching (set : SwitchedSet) (idle : Bool) : List UInt8 → List Char
  | [] => []
  | 0x1B :: 0x28 :: 0x42 :: rest => switched idle ++ decodeSwitching .ascii true rest
  | 0x1B :: 0x28 :: 0x4A :: rest => switched idle ++ decodeSwitching .roman true rest
  | 0x1B :: 0x28 :: 0x49 :: rest => switched idle ++ decodeSwitching .halfWidth true rest
  | 0x1B :: 0x24 :: 0x40 :: rest => switched idle ++ decodeSwitching .kanji true rest
  | 0x1B :: 0x24 :: 0x42 :: rest => switched idle ++ decodeSwitching .kanji true rest
  | 0x1B :: rest => fault :: decodeSwitching set false rest
  | b :: rest =>
    if set = .kanji then
      if isPlainHalf b then
        match rest with
        | [] => [fault]
        | t :: more =>
          if t = 0x1B then fault :: decodeSwitching set false (t :: more)
          else if isPlainHalf t then
            (charAt? kanjiTable ((b.toNat - 0x21) * 94 + (t.toNat - 0x21))).getD fault
              :: decodeSwitching set false more
          else fault :: decodeSwitching set false more
      else fault :: decodeSwitching set false rest
    else set.single b :: decodeSwitching set false rest
where
  switched (idle : Bool) : List Char := if idle then [fault] else []

end NewsSearch.Text
