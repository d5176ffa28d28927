import NewsSearch.Json.Value
import NewsSearch.Decimal.Form

/-!
# Printing JSON

A value as text, compact or over several lines. In a string only quotes, backslashes and control
characters are escaped.
-/

namespace NewsSearch.Json

namespace Printer

/-- A double is written with its shortest digits, in positional form from `0.00001` up to sixteen
digits before the point. -/
def realForm : Decimal.Form := ⟨-5, 15⟩

def numberText : Number → List Char
  | .integer n => if n < 0 then '-' :: Text.decimal n.natAbs else Text.decimal n.natAbs
  | .real x => if x.isFinite then Decimal.writeDouble realForm x else "null".toList

/-- A small hexadecimal digit. -/
def hexDigit (n : Nat) : Char := if n < 10 then Char.ofNat (48 + n) else Char.ofNat (87 + n)

def escapedChar (c : Char) : List Char :=
  if c = '"' then ['\\', '"']
  else if c = '\\' then ['\\', '\\']
  else if c = '\x08' then ['\\', 'b']
  else if c = '\x0c' then ['\\', 'f']
  else if c = '\n' then ['\\', 'n']
  else if c = '\r' then ['\\', 'r']
  else if c = '\t' then ['\\', 't']
  else if c.toNat < 0x20 then
    ['\\', 'u', '0', '0', hexDigit (c.toNat / 16), hexDigit (c.toNat % 16)]
  else [c]

def stringText (s : String) : List Char := '"' :: s.toList.flatMap escapedChar ++ ['"']

/-- How the parts of a list or an object are laid out. -/
structure Style where
  /-- Between the parts, and before the first and after the last, at a depth -/
  lineBreak : Nat → List Char
  /-- Between a key and its value -/
  afterKey : List Char

def compactStyle : Style := ⟨fun _ => [], [':']⟩

/-- Each part on a line of its own, two spaces further in than what is around it. -/
def prettyStyle : Style := ⟨fun depth => '\n' :: List.replicate (2 * depth) ' ', [':', ' ']⟩

mutual

/-- The text of a value that stands at a depth. -/
def text (style : Style) (depth : Nat) : Value → List Char
  | .null => "null".toList
  | .bool true => "true".toList
  | .bool false => "false".toList
  | .number n => numberText n
  | .string s => stringText s
  | .array [] => "[]".toList
  | .array (v :: vs) =>
    '[' :: style.lineBreak (depth + 1) ++ text style (depth + 1) v
      ++ itemsText style depth vs
  | .object [] => "\x7b\x7d".toList
  | .object ((k, v) :: ms) =>
    '{' :: style.lineBreak (depth + 1) ++ stringText k ++ style.afterKey
      ++ text style (depth + 1) v ++ membersText style depth ms

/-- The rest of a list, after one of its items. -/
def itemsText (style : Style) (depth : Nat) : List Value → List Char
  | [] => style.lineBreak depth ++ [']']
  | v :: vs =>
    ',' :: style.lineBreak (depth + 1) ++ text style (depth + 1) v
      ++ itemsText style depth vs

/-- The rest of an object, after one of its members. -/
def membersText (style : Style) (depth : Nat) : List (String × Value) → List Char
  | [] => style.lineBreak depth ++ ['}']
  | (k, v) :: ms =>
    ',' :: style.lineBreak (depth + 1) ++ stringText k ++ style.afterKey
      ++ text style (depth + 1) v ++ membersText style depth ms

end

end Printer

/-- The value as text without blanks. -/
def Value.compact (v : Value) : String := String.ofList (Printer.text Printer.compactStyle 0 v)

/-- The value as text over several lines. -/
def Value.pretty (v : Value) : String := String.ofList (Printer.text Printer.prettyStyle 0 v)

end NewsSearch.Json
