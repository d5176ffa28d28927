/-!
# Tables of characters
-/

namespace NewsSearch.Text

/-- What stands for bytes without a meaning. -/
def fault : Char := '\uFFFD'

/-- A table from its rows, which have `fault` where there is no character. -/
def tableOf (rows : List String) : Array Char := (rows.flatMap String.toList).toArray

/-- The character in a place of a table. -/
def charAt? (table : Array Char) (place : Nat) : Option Char := table[place]?.filter (· != fault)

end NewsSearch.Text
