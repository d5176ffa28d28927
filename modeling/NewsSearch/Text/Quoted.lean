import NewsSearch.Text.Glyph

/-!
# Quoted text in messages

A text that a message names stands between double quotes. A quote and a backslash get a backslash,
tab, line feed, carriage return and NUL their short forms, and any other character without a glyph
is shown by its code point in braces.
-/

namespace NewsSearch.Text

/-- The hexadecimal digits of a number, in small letters. -/
def hexadecimal (n : Nat) : String := String.ofList (Nat.toDigits 16 n)

/-- How one character stands in a quoted text. -/
def quotedChar (c : Char) : String :=
  match c with
  | '\x00' => "\\0"
  | '\t' => "\\t"
  | '\n' => "\\n"
  | '\r' => "\\r"
  | '"' => "\\\""
  | '\\' => "\\\\"
  | c => if isGlyphless c then "\\u\x7b" ++ hexadecimal c.toNat ++ "\x7d" else c.toString

def quoted (s : String) : String :=
  "\"" ++ String.join (s.toList.map quotedChar) ++ "\""

end NewsSearch.Text
