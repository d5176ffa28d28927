import NewsSearch.Text.Digits
import NewsSearch.Text.Percent

/-!
# Web addresses

What an address says about a request: whether it is encrypted, who is asked, and the path and the
query that are asked for. Both are given in standard form. A segment `.` or `..` of a path leads
nowhere or one segment up, and characters that may not stand in an address are percent-encoded.
-/

namespace NewsSearch

structure Url where
  encrypted : Bool
  host : List Char
  /-- The segments of the path, without the slashes between them -/
  path : List (List Char)
  query : Option (List Char)
deriving DecidableEq, Repr

namespace Url

/-! ## Paths -/

/-- A backslash counts as a slash. -/
def isSlash (c : Char) : Bool := c == '/' || c == '\\'

/-- How many dots a segment is, if it is nothing else. A dot may be percent-encoded. -/
def dotCount? : List Char → Option Nat
  | [] => some 0
  | '.' :: cs => (dotCount? cs).map (· + 1)
  | '%' :: '2' :: e :: cs => if e = 'e' ∨ e = 'E' then (dotCount? cs).map (· + 1) else none
  | _ => none

/-- Whether a segment leads nowhere or up. -/
def isDots (segment : List Char) : Bool :=
  dotCount? segment == some 1 || dotCount? segment == some 2

/-- Whether a segment is a drive letter, such as `C:` or `c|`. -/
def isDriveLetter : List Char → Bool
  | [letter, mark] => letter.isAlpha && (mark == ':' || mark == '|')
  | _ => false

/-- One segment up, from segments with the latest first. Nothing is above the root, and a drive
letter is not left. -/
def leave : List (List Char) → List (List Char)
  | [] => []
  | s :: above => if isDriveLetter s then s :: above else above

/-- Follows one more segment. -/
def follow (above : List (List Char)) (segment : List Char) : List (List Char) :=
  match dotCount? segment with
  | some 1 => above
  | some 2 => leave above
  | _ => segment :: above

/-- A path without dot segments. After one at the end the path ends with a slash. -/
def resolve (segments : List (List Char)) : List (List Char) :=
  let above := segments.foldl follow []
  (if segments.getLast?.any isDots then [] :: above else above).reverse

/-! ## Reading -/

/-- Tabs and line ends do not count, wherever they are. -/
def isIgnored (c : Char) : Bool := c == '\t' || c == '\n' || c == '\r'

/-- Takes the scheme: whether it asks for encryption, and the rest. -/
def takeScheme? : List Char → Option (Bool × List Char)
  | 'h' :: 't' :: 't' :: 'p' :: 's' :: ':' :: cs => some (true, cs)
  | 'h' :: 't' :: 't' :: 'p' :: ':' :: cs => some (false, cs)
  | _ => none

/-- Whether a character ends the part with the host. -/
def endsAuthority (c : Char) : Bool := isSlash c || c == '?' || c == '#'

/-- The characters that no host has. -/
def isForbiddenInHost (c : Char) : Bool :=
  c.toNat ≤ 0x20 || c.toNat == 0x7F || ['<', '>', '[', ']', '^', '|'].contains c

/-- A port number, which may be left out after its colon. -/
def isPort (cs : List Char) : Bool := cs.all Char.isDigit && Text.digitsValue cs < UInt16.size

/-- The host in an authority, where it may stand between credentials and a port. -/
def readHost? (authority : List Char) : Option (List Char) :=
  let server := (authority.reverse.takeWhile (· != '@')).reverse
  let host := server.takeWhile (· != ':')
  if host.isEmpty ∨ host.any isForbiddenInHost ∨ ¬ isPort (server.drop (host.length + 1)) then none
  else some host

/-- Reads an address. What follows a `#` is no part of a request. -/
def parse? (text : String) : Option Url := do
  let (encrypted, cs) ← takeScheme? (text.toList.filter (! isIgnored ·))
  let cs := cs.dropWhile isSlash
  let host ← readHost? (cs.takeWhile (! endsAuthority ·))
  let asked := (cs.dropWhile (! endsAuthority ·)).takeWhile (· != '#')
  let path := asked.takeWhile (· != '?')
  let query := match asked.dropWhile (· != '?') with
    | [] => none
    | _ :: cs => some cs
  return { encrypted, host, path := resolve ((path.drop 1).splitOnP isSlash), query }

/-! ## Writing -/

/-- Whether a character is visible and one of ASCII. -/
def isVisible (c : Char) : Bool := 0x20 < c.toNat && c.toNat < 0x7F

/-- The characters that may stand in a path. -/
def keptInPath (c : Char) : Bool :=
  isVisible c && c ∉ ['"', '#', '<', '>', '?', '\x60', '{', '}']

/-- The characters that may stand in a query. -/
def keptInQuery (c : Char) : Bool :=
  isVisible c && c ∉ ['"', '#', '\'', '<', '>']

/-- The path and the query as a request has them. -/
def target (u : Url) : String :=
  let path := u.path.flatMap fun s => '/' :: Text.Percent.encodeChars keptInPath s
  let query := match u.query with
    | none => []
    | some q => '?' :: Text.Percent.encodeChars keptInQuery q
  String.ofList (path ++ query)

end Url

end NewsSearch
