import NewsSearch.Text.Charset.ChineseSimplified
import NewsSearch.Text.Charset.ChineseTraditional
import NewsSearch.Text.Charset.Japanese
import NewsSearch.Text.Charset.Korean

/-!
# One or two bytes a character

The charsets in which a lead byte and the byte after it are a character. A pair without a meaning is
one fault; if its second byte is one of ASCII, that byte is read again as a character of its own.
-/

namespace NewsSearch.Text

structure DoubleByte where
  isLead : UInt8 → Bool
  /-- The character of a byte that is no lead byte -/
  single : UInt8 → Char
  /-- The characters of a pair, by its two bytes -/
  pair? : Nat → Nat → Option (List Char)
  /-- Whether a longer code may go on with a byte after its lead byte -/
  goesOn : UInt8 → Bool := fun _ => false

/-- The character of a byte that is one of ASCII, or a fault. -/
def asciiOrFault (b : UInt8) : Char := if b < 0x80 then Char.ofNat b.toNat else fault

namespace DoubleByte

/-- The characters that bytes stand for. A longer code that the end cuts short is one fault. -/
def decode (charset : DoubleByte) : List UInt8 → List Char
  | [] => []
  | [b] => [if charset.isLead b then fault else charset.single b]
  | b :: t :: rest =>
    if charset.isLead b then
      match charset.pair? b.toNat t.toNat with
      | some cs => cs ++ decode charset rest
      | none =>
        if charset.goesOn t ∧ rest = [] then [fault]
        else fault :: (if t < 0x80 then decode charset (t :: rest) else decode charset rest)
    else charset.single b :: decode charset (t :: rest)

/-- A single character in a table. -/
def one (c : Option Char) : Option (List Char) := c.map ([·])

/-! ## Simplified Chinese -/

/-- The codes for private use, in three blocks. -/
def privateUse? (lead trail : Nat) : Option Char :=
  if 0xAA ≤ lead ∧ lead ≤ 0xAF ∧ 0xA1 ≤ trail then
    some (Char.ofNat (0xE000 + 94 * (lead - 0xAA) + (trail - 0xA1)))
  else if 0xF8 ≤ lead ∧ 0xA1 ≤ trail then
    some (Char.ofNat (0xE234 + 94 * (lead - 0xF8) + (trail - 0xA1)))
  else if 0xA1 ≤ lead ∧ lead ≤ 0xA7 ∧ trail ≤ 0xA0 then
    some (Char.ofNat (0xE4C6 + 96 * (lead - 0xA1) + (trail - if trail < 0x7F then 0x40 else 0x41)))
  else none

def simplifiedPair? (lead trail : Nat) : Option (List Char) :=
  if trail < 0x40 ∨ trail = 0x7F ∨ 0xFE < trail then none
  else
    let place := (lead - 0x81) * 190 + (trail - if trail < 0x7F then 0x40 else 0x41)
    one ((charAt? simplifiedTable place).or (privateUse? lead trail))

/-- GB 18030 without its codes of four bytes. In those a digit follows a lead byte twice, which does
not happen in UTF-8 text. -/
def simplifiedChinese : DoubleByte where
  isLead b := 0x81 ≤ b && b ≤ 0xFE
  single b := if b = 0x80 then '€' else asciiOrFault b
  pair? := simplifiedPair?
  goesOn b := 0x30 ≤ b && b ≤ 0x39

/-! ## Traditional Chinese -/

/-- The codes for a letter with a mark of its own. -/
def markedLetter? (lead trail : Nat) : Option (List Char) :=
  if lead = 0x88 then
    if trail = 0x62 then some ['Ê', '\u0304']
    else if trail = 0x64 then some ['Ê', '\u030C']
    else if trail = 0xA3 then some ['ê', '\u0304']
    else if trail = 0xA5 then some ['ê', '\u030C']
    else none
  else none

def traditionalPair? (lead trail : Nat) : Option (List Char) :=
  if lead < 0x87 ∨ trail < 0x40 ∨ (0x7E < trail ∧ trail < 0xA1) ∨ 0xFE < trail then none
  else
    let place := (lead - 0x87) * 157 + (trail - if trail < 0x7F then 0x40 else 0x62)
    (markedLetter? lead trail).or (one (charAt? traditionalTable place))

/-- Big5. -/
def traditionalChinese : DoubleByte where
  isLead b := 0x81 ≤ b && b ≤ 0xFE
  single := asciiOrFault
  pair? := traditionalPair?

/-! ## Korean -/

def koreanPair? (lead trail : Nat) : Option (List Char) :=
  if trail < 0x41 ∨ 0xFE < trail then none
  else one (charAt? koreanTable ((lead - 0x81) * 190 + (trail - 0x41)))

/-- The extended Korean code. -/
def korean : DoubleByte where
  isLead b := 0x81 ≤ b && b ≤ 0xFE
  single := asciiOrFault
  pair? := koreanPair?

/-! ## Japanese -/

/-- The half-width character of a byte from A1 to DF. -/
def halfWidth (b : Nat) : Char := Char.ofNat (0xFF61 + (b - 0xA1))

/-- The character in a place of the shifted code: the table, a block for private use, and the
extensions. -/
def shiftedChar? (place : Nat) : Option Char :=
  if place < 8836 then charAt? kanjiTable place
  else if place < 10716 then some (Char.ofNat (0xE000 + (place - 8836)))
  else charAt? extensionTable (place - 10716)

def shiftedPair? (lead trail : Nat) : Option (List Char) :=
  if trail < 0x40 ∨ trail = 0x7F ∨ 0xFC < trail then none
  else
    let row := lead - if lead < 0xA0 then 0x81 else 0xC1
    one (shiftedChar? (row * 188 + (trail - if trail < 0x7F then 0x40 else 0x41)))

/-- The shifted Japanese code. -/
def shiftedJapanese : DoubleByte where
  isLead b := (0x81 ≤ b && b ≤ 0x9F) || (0xE0 ≤ b && b ≤ 0xFC)
  single b :=
    if b = 0x80 then '\x80'
    else if 0xA1 ≤ b && b ≤ 0xDF then halfWidth b.toNat
    else asciiOrFault b
  pair? := shiftedPair?

end DoubleByte

end NewsSearch.Text
