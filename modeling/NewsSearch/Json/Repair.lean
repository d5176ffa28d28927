import NewsSearch.Json.Reader
import NewsSearch.Json.Position
import NewsSearch.Text.Blank

/-!
# Repairing JSON text

Some answers are JSON but for a few stray characters. The repair blanks the character where the
reader stopped and reads again, a limited number of times. A blanked character becomes as many
spaces as it has bytes, so every other place in the text stays where it was.
-/

namespace NewsSearch.Json

/-- What a reader reports: the cause and where it is. -/
structure SyntaxError where
  cause : Cause
  position : Position
deriving DecidableEq, Repr

def SyntaxError.message (e : SyntaxError) : String :=
  s!"{e.cause.message} at line {e.position.line} column {e.position.column}"

/-- Why a text could not be repaired. -/
inductive RepairError
  /-- The budget is spent, or nothing is left to blank -/
  | exhausted (budget : Nat) (last : SyntaxError)
  /-- The fault is not at a character that could be blanked -/
  | unrecoverable (error : SyntaxError)
deriving DecidableEq, Repr

def RepairError.last : RepairError → SyntaxError
  | .exhausted _ e => e
  | .unrecoverable e => e

def RepairError.message : RepairError → String
  | .exhausted budget _ => s!"Max recursion depth is reached ({budget} repairs)"
  | .unrecoverable e => "response is not repairable JSON: " ++ e.message

namespace Repair

/-- The repairs that are tried if the caller does not say how many. -/
def defaultBudget : Nat := 100

/-- A character becomes as many spaces as it has bytes. -/
def blank (c : Char) : List Char := List.replicate c.utf8Size ' '

/-- Blanks the character that covers a byte. -/
def blankAt : Nat → List Char → List Char
  | _, [] => []
  | offset, c :: cs =>
    if offset < c.utf8Size then blank c ++ cs else c :: blankAt (offset - c.utf8Size) cs

/-- The top-level members of a value, none if it is no object. -/
def entries : Value → Members
  | .object members => members
  | _ => []

/-- What reading a document once comes to. -/
inductive Attempt
  /-- It can be read -/
  | readable (value : Value)
  /-- It ends too early -/
  | hopeless (error : SyntaxError)
  /-- It is broken at a character, and is to be read again with that character blanked. There is no
  such character at a newline. -/
  | broken (error : SyntaxError) (next : Option (List Char))

/-- Reads a document once. -/
def attempt (document : List Char) : Attempt :=
  match Reader.read document with
  | .ok v => .readable v
  | .error f =>
    let bytes := Position.bytes document
    let error : SyntaxError := ⟨f.cause, .ofMark bytes f.mark⟩
    match f.cause.category with
    | .malformed => .broken error ((error.position.offset? bytes).map (blankAt · document))
    | _ => .hopeless error

/-- Reads a document, and again after each repair, while `left` repairs are allowed. -/
def mend (budget : Nat) : (left : Nat) → (document : List Char) → Except RepairError Members
  | left, document =>
    match attempt document with
    | .readable v => .ok (entries v)
    | .hopeless e =>
      -- Repairs may have blanked everything.
      if left < budget ∧ document.all Text.isBlank then .error (.exhausted budget e)
      else .error (.unrecoverable e)
    | .broken e next =>
      match left with
      | 0 => .error (.exhausted budget e)
      | left + 1 =>
        match next with
        | none => .error (.unrecoverable e)
        | some document' => mend budget left document'

/-- The documents that are read on the way, the text first. -/
def documents : (left : Nat) → (document : List Char) → List (List Char)
  | left, document =>
    match attempt document, left with
    | .broken _ (some document'), left + 1 => document :: documents left document'
    | _, _ => [document]

/-- The top-level members of a text, with at most `budget` repairs. A blank text has none. -/
def parse (budget : Nat) (text : String) : Except RepairError Members :=
  if Text.allBlank text then .ok [] else mend budget budget text.toList

end Repair

end NewsSearch.Json
