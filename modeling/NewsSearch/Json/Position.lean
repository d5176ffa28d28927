/-!
# Lines and columns

A place in a text, given by the number of bytes up to the end of the byte that it is about, as a
line and a column. Both count from one, columns in bytes. A newline starts its line's successor, so
a place at a newline has column zero.
-/

namespace NewsSearch.Json

structure Position where
  line : Nat
  column : Nat
deriving DecidableEq, Repr

namespace Position

def newline : UInt8 := 10

/-- The bytes of a text. -/
def bytes (cs : List Char) : List UInt8 := cs.flatMap String.utf8EncodeChar

/-- The position of the last of the first `mark` bytes. -/
def ofMark (text : List UInt8) (mark : Nat) : Position :=
  let read := text.take mark
  ⟨1 + read.count newline, (read.reverse.takeWhile (· != newline)).length⟩

/-- The bytes before the line that follows `n` newlines. -/
def lineStart? : Nat → List UInt8 → Option Nat
  | 0, _ => some 0
  | _ + 1, [] => none
  | n + 1, b :: rest =>
    (if b = newline then lineStart? n rest else lineStart? (n + 1) rest).map (· + 1)

/-- How many numbers a machine word can be. The length of a text is always one of them. -/
def wordSize (text : List UInt8) : Nat := max UInt64.size (text.length + 1)

/-- A sum of words, which wraps around. -/
def addWords (size a b : Nat) : Nat := (a + b) % size

/-- A difference of words, which wraps around. -/
def subWords (size a b : Nat) : Nat := (a + (size - b)) % size

/-- The bytes before a position, if a byte of the text stands there. They are counted in machine
words, and a sum that is too large for a word wraps around, as it does where overflow is not checked
for. -/
def offset? (p : Position) (text : List UInt8) : Option Nat :=
  if p.line = 0 ∨ p.column = 0 then none
  else
    match lineStart? (p.line - 1) text with
    | none => none
    | some start =>
      let size := wordSize text
      let offset := subWords size (addWords size start p.column) 1
      if offset < text.length then some offset else none

end Position

end NewsSearch.Json
