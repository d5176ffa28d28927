import NewsSearch.Text.Charset

/-!
# Media types

The value of a content type header: a type and a subtype, then parameters such as the charset. A
value that breaks the rules anywhere says nothing.
-/

namespace NewsSearch

structure MediaType where
  type : List Char
  subtype : List Char
  parameters : List (List Char × List Char)
deriving DecidableEq, Repr

namespace MediaType

/-- The marks that a token may have beside letters and digits. -/
def tokenMarks : List Char := "!#$%&'*+-.^_\x60|~".toList

def isToken (c : Char) : Bool := c.isAlphanum || tokenMarks.contains c

/-- The characters that a quoted value may have. -/
def isQuotable (c : Char) : Bool := 0x20 ≤ c.toNat && c.toNat != 0x7F

/-- Reads a value up to its end, which is that of the text or a semicolon. Gives what follows. -/
def takePlain? (cs : List Char) : Option (List Char × List Char) :=
  let value := cs.takeWhile isToken
  match cs.dropWhile isToken with
  | [] => some (value, [])
  | ';' :: rest => if value.isEmpty then none else some (value, rest)
  | _ => none

/-- Reads a quoted value after its opening quote. It is not empty, and its first character may be a
quote. Blanks may follow it. -/
def takeQuoted? (cs : List Char) : Option (List Char × List Char) :=
  match cs with
  | [] => none
  | first :: more =>
    let inner := more.takeWhile fun c => c != '"' && isQuotable c
    match isQuotable first, more.drop inner.length with
    | true, '"' :: rest =>
      match rest.dropWhile (· == ' ') with
      | [] => some (first :: inner, [])
      | ';' :: rest => some (first :: inner, rest)
      | _ => none
    | _, _ => none

/-- Reads the parameters. A text of `fuel` characters has no more parameters than that. -/
def parameters? : (fuel : Nat) → List Char → Option (List (List Char × List Char))
  | fuel, cs =>
    match cs.dropWhile (· == ' ') with
    | [] => some []
    | cs =>
      let name := cs.takeWhile isToken
      match fuel, name, cs.dropWhile isToken with
      | fuel + 1, _ :: _, '=' :: rest => do
        let (value, rest) ← match rest with
          | '"' :: rest => takeQuoted? rest
          | rest => takePlain? rest
        return (name, value) :: (← parameters? fuel rest)
      | _, _, _ => none

def parse? (text : String) : Option MediaType :=
  let type := text.toList.takeWhile isToken
  match type, text.toList.dropWhile isToken with
  | _ :: _, '/' :: rest =>
    let subtype := rest.takeWhile isToken
    match rest.dropWhile isToken with
    | [] => some ⟨type, subtype, []⟩
    | ';' :: rest =>
      if subtype.isEmpty then none
      else (parameters? rest.length rest).map fun ps => ⟨type, subtype, ps⟩
    | _ => none
  | _, _ => none

/-- The first value of a parameter. Capitals do not count in its name. -/
def parameter? (m : MediaType) (name : String) : Option String :=
  (m.parameters.find? fun p => p.1.map Char.toLower == name.toList).map fun p => String.ofList p.2

/-- The charset of a body with a content type. It is UTF-8 unless a known one is named. -/
def charset (contentType : Option String) : Text.Charset :=
  let named := do
    let m ← parse? (← contentType)
    Text.Charset.ofLabel? (← m.parameter? "charset")
  named.getD .utf8

end MediaType

end NewsSearch
