/-!
# Blank characters

The characters with the Unicode property White_Space, and trimming. The zero width space U+200B and
the byte order mark U+FEFF are not among them.
-/

namespace NewsSearch.Text

/-- The code points with the property White_Space. -/
def blankPoints : List Nat :=
  [0x09, 0x0A, 0x0B, 0x0C, 0x0D, 0x20, 0x85, 0xA0, 0x1680,
   0x2000, 0x2001, 0x2002, 0x2003, 0x2004, 0x2005, 0x2006, 0x2007, 0x2008, 0x2009, 0x200A,
   0x2028, 0x2029, 0x202F, 0x205F, 0x3000]

def isBlank (c : Char) : Bool := blankPoints.contains c.toNat

example : blankPoints.length = 25 := rfl

/-- Leaves out the blanks in front. -/
def trimStart (cs : List Char) : List Char := cs.dropWhile isBlank

/-- Leaves out the blanks at both ends. -/
def trim (s : String) : String :=
  String.ofList (trimStart (trimStart s.toList).reverse).reverse

/-- Whether a text has nothing but blanks. -/
def allBlank (s : String) : Bool := s.toList.all isBlank

end NewsSearch.Text
