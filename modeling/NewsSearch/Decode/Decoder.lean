import NewsSearch.Decode.Problem
import NewsSearch.Json.Reader

/-!
# Decoding JSON into types

A decoder describes a type once and reads it in two ways: from text, as a stream, so that the first
problem in the text is found whether it is one of syntax or of shape, and from a value that has
been read already. Members that no field asks for are skipped.
-/

namespace NewsSearch.Decode

open Json

/-- Reads a type from text, with room for some more open brackets, and from a value. -/
structure Decoder (α : Type) where
  ofText : (room : Nat) → List Char → Except Problem (α × List Char)
  ofValue : Value → Except Problem α

/-! ## Pieces of text -/

/-- Reads any value. -/
def readValue (room : Nat) (cs : List Char) : Except Problem (Value × List Char) :=
  match Reader.scan ⟨true, room⟩ 0 Reader.initial cs with
  | .ok r => .ok r
  | .error f => .error (.fault f.cause)

/-- Reads a value that nobody needs. -/
def skipValue (cs : List Char) : Except Problem (List Char) :=
  match Reader.scan ⟨false, 0⟩ 0 Reader.initial cs with
  | .ok (_, rest) => .ok rest
  | .error f => .error (.fault f.cause)

/-- Reads the rest of a string. -/
def readString (l : StringReader) : List Char → Except Problem (String × List Char)
  | [] => .error (.fault .endInString)
  | c :: cs =>
    match l.step true c with
    | .error (e, _) => .error (.fault e)
    | .ok (.more l) => readString l cs
    | .ok (.closed s) => .ok (s, cs)

/-- The problem of finding a text where something else was expected. A list or an object is not
looked into. -/
def mismatch (room : Nat) (expected : String) (cs : List Char) : Problem :=
  match cs with
  | '[' :: _ => .wrongType .sequence expected
  | '{' :: _ => .wrongType .map expected
  | cs =>
    match readValue room cs with
    | .ok (v, _) => .wrongType (.ofValue v) expected
    | .error p => p

/-- What follows in a list or an object. -/
inductive Next
  /-- Its end, and the text after that -/
  | stop (rest : List Char)
  /-- One more part, and the text from there on -/
  | go (rest : List Char)

/-- Goes to the next item of a list. -/
def nextItem (first : Bool) (cs : List Char) : Except Problem Next :=
  match Reader.skipSpaces cs with
  | [] => .error (.fault .endInList)
  | ']' :: rest => .ok (.stop rest)
  | c :: rest =>
    if first then .ok (.go (c :: rest))
    else if c = ',' then
      match Reader.skipSpaces rest with
      | [] => .error (.fault .endInValue)
      | ']' :: _ => .error (.fault .trailingComma)
      | rest => .ok (.go rest)
    else .error (.fault .expectedListSeparator)

/-- Goes to the next key of an object, past its opening quote. -/
def nextKey (first : Bool) (cs : List Char) : Except Problem Next :=
  match Reader.skipSpaces cs with
  | [] => .error (.fault .endInObject)
  | '}' :: rest => .ok (.stop rest)
  | c :: rest =>
    if first then
      if c = '"' then .ok (.go rest) else .error (.fault .keyNotString)
    else if c = ',' then
      match Reader.skipSpaces rest with
      | [] => .error (.fault .endInValue)
      | '"' :: rest => .ok (.go rest)
      | '}' :: _ => .error (.fault .trailingComma)
      | _ => .error (.fault .keyNotString)
    else .error (.fault .expectedObjectSeparator)

def readColon (cs : List Char) : Except Problem (List Char) :=
  match Reader.skipSpaces cs with
  | [] => .error (.fault .endInObject)
  | ':' :: rest => .ok rest
  | _ => .error (.fault .expectedColon)

/-- Reads the end of a list after as many items as were asked for. -/
def endItems (cs : List Char) : Except Problem (List Char) :=
  match Reader.skipSpaces cs with
  | [] => .error (.fault .endInList)
  | ']' :: rest => .ok rest
  | ',' :: rest =>
    match Reader.skipSpaces rest with
    | ']' :: _ => .error (.fault .trailingComma)
    | _ => .error (.fault .trailingCharacters)
  | _ => .error (.fault .trailingCharacters)

/-- The room inside one more bracket. -/
def openBracket (room : Nat) : Except Problem Nat :=
  match room with
  | 0 => .error (.fault .tooDeep)
  | room + 1 => .ok room

/-! ## Decoders -/

namespace Decoder

/-- Any value. -/
def value : Decoder Value := ⟨readValue, .ok⟩

/-- The same text, then a test. -/
def refine (d : Decoder α) (f : α → Except Problem β) : Decoder β where
  ofText room cs := do
    let (a, rest) ← d.ofText room cs
    return (← f a, rest)
  ofValue v := do f (← d.ofValue v)

def map (d : Decoder α) (f : α → β) : Decoder β := d.refine fun a => .ok (f a)

def string : Decoder String where
  ofText room cs :=
    match Reader.skipSpaces cs with
    | [] => .error (.fault .endInValue)
    | '"' :: rest => readString .opened rest
    | cs => .error (mismatch room "a string" cs)
  ofValue
    | .string s => .ok s
    | v => .error (.wrongType (.ofValue v) "a string")

/-- The number, if it is a whole number of 32 bits. -/
def toUInt32 : Number → Except Problem UInt32
  | .integer n =>
    if 0 ≤ n ∧ n < UInt32.size then .ok n.toNat.toUInt32
    else .error (.wrongValue (.number (.integer n)) "u32")
  | .real x => .error (.wrongType (.number (.real x)) "u32")

/-- A whole number of 32 bits. -/
def uint32 : Decoder UInt32 where
  ofText room cs :=
    match Reader.skipSpaces cs with
    | [] => .error (.fault .endInValue)
    | c :: cs =>
      if c = '-' ∨ c.isDigit then do
        match (← readValue room (c :: cs)) with
        | (.number n, rest) => return (← toUInt32 n, rest)
        | (v, _) => .error (.wrongType (.ofValue v) "u32")
      else .error (mismatch room "u32" (c :: cs))
  ofValue
    | .number n => toUInt32 n
    | v => .error (.wrongType (.ofValue v) "u32")

/-- A value or null. -/
def nullable (d : Decoder α) : Decoder (Option α) where
  ofText room cs :=
    match Reader.skipSpaces cs with
    | 'n' :: rest => do
      let (_, rest) ← readValue room ('n' :: rest)
      return (none, rest)
    | cs => do
      let (a, rest) ← d.ofText room cs
      return (some a, rest)
  ofValue
    | .null => .ok none
    | v => (d.ofValue v).map some

/-- The items of a list up to its end. A text of `fuel` characters has no more items than that. -/
def items (d : Decoder α) (room : Nat) :
    (fuel : Nat) → (first : Bool) → List Char → Except Problem (List α × List Char)
  | 0, _, _ => .error (.fault .endInList)
  | fuel + 1, first, cs => do
    match (← nextItem first cs) with
    | .stop rest => return ([], rest)
    | .go rest =>
      let (a, rest) ← d.ofText room rest
      let (as, rest) ← items d room fuel false rest
      return (a :: as, rest)

def list (d : Decoder α) : Decoder (List α) where
  ofText room cs :=
    match Reader.skipSpaces cs with
    | [] => .error (.fault .endInValue)
    | '[' :: rest => do
      let room ← openBracket room
      d.items room (rest.length + 1) true rest
    | cs => .error (mismatch room "a sequence" cs)
  ofValue
    | .array vs => vs.mapM d.ofValue
    | v => .error (.wrongType (.ofValue v) "a sequence")

end Decoder

/-! ## Records -/

/-- A field of a record: its name, other names for it, and how its value changes the record. -/
structure Field (σ : Type) where
  name : String
  aliases : List String
  update : Decoder (σ → σ)

/-- A field that sets a part of the record. -/
def Field.of (name : String) (aliases : List String) (d : Decoder α) (set : α → σ → σ) : Field σ :=
  ⟨name, aliases, d.map set⟩

/-- Whether a key stands for the field. -/
def Field.answersTo (f : Field σ) (key : String) : Bool := f.name == key || f.aliases.contains key

/-- A record type: the name that problems give it, the record without any field, and the fields in
the order in which a list gives them. -/
structure Record (σ : Type) where
  title : String
  blank : σ
  fields : List (Field σ)

namespace Record

/-- The members of an object up to its end. `other` reads the members that stand for no field. -/
def membersOfText (fields : List (Field σ))
    (other : String → Nat → List Char → Except Problem ((σ → σ) × List Char)) (room : Nat) :
    (fuel : Nat) → (first : Bool) → (seen : List String) → σ → List Char →
      Except Problem (σ × List Char)
  | 0, _, _, _, _ => .error (.fault .endInObject)
  | fuel + 1, first, seen, s, cs => do
    match (← nextKey first cs) with
    | .stop rest => return (s, rest)
    | .go rest =>
      let (key, rest) ← readString .opened rest
      match fields.find? (·.answersTo key) with
      | some f =>
        if seen.contains f.name then .error (.duplicateField f.name)
        let rest ← readColon rest
        let (set, rest) ← f.update.ofText room rest
        membersOfText fields other room fuel false (f.name :: seen) (set s) rest
      | none =>
        let rest ← readColon rest
        let (set, rest) ← other key room rest
        membersOfText fields other room fuel false seen (set s) rest

/-- Skips a member. -/
def skipMember (_ : String) (_ : Nat) (cs : List Char) : Except Problem ((σ → σ) × List Char) := do
  return (id, ← skipValue cs)

/-- The fields from the items of a list, in order, up to its end. -/
def itemsOfText (room : Nat) :
    List (Field σ) → (first : Bool) → σ → List Char → Except Problem (σ × List Char)
  | [], _, s, cs => do return (s, ← endItems cs)
  | f :: fs, first, s, cs => do
    match (← nextItem first cs) with
    | .stop rest => return (s, rest)
    | .go rest =>
      let (set, rest) ← f.update.ofText room rest
      itemsOfText room fs false (set s) rest

/-- The members of an object. -/
def membersOfValue (fields : List (Field σ)) :
    (seen : List String) → σ → Members → Except Problem σ
  | _, s, [] => .ok s
  | seen, s, (key, v) :: rest =>
    match fields.find? (·.answersTo key) with
    | some f => do
      if seen.contains f.name then .error (.duplicateField f.name)
      let set ← f.update.ofValue v
      membersOfValue fields (f.name :: seen) (set s) rest
    | none => membersOfValue fields seen s rest

/-- The fields from the items of a list, in order. -/
def itemsOfValue (length : Nat) : List (Field σ) → σ → List Value → Except Problem σ
  | _, s, [] => .ok s
  | [], _, _ :: _ => .error (.surplus length)
  | f :: fs, s, v :: vs => do
    let set ← f.update.ofValue v
    itemsOfValue length fs (set s) vs

/-- A record is an object, or a list of its fields in order. Fields that are not given stay as they
are in the blank record. -/
def decoder (r : Record σ) : Decoder σ where
  ofText room cs :=
    match Reader.skipSpaces cs with
    | [] => .error (.fault .endInValue)
    | '[' :: rest => do
      let room ← openBracket room
      itemsOfText room r.fields true r.blank rest
    | '{' :: rest => do
      let room ← openBracket room
      membersOfText r.fields skipMember room (rest.length + 1) true [] r.blank rest
    | cs => .error (mismatch room r.title cs)
  ofValue
    | .array vs => itemsOfValue vs.length r.fields r.blank vs
    | .object ms => membersOfValue r.fields [] r.blank ms
    | v => .error (.wrongType (.ofValue v) r.title)

end Record

/-- Decodes a whole text. -/
def wholeText (read : Nat → List Char → Except Problem (α × List Char)) (text : String) :
    Except Problem α := do
  let (a, rest) ← read Reader.maxOpen text.toList
  match Reader.skipSpaces rest with
  | [] => return a
  | _ => .error (.fault .trailingCharacters)

def Decoder.decode (d : Decoder α) (text : String) : Except Problem α := wholeText d.ofText text

end NewsSearch.Decode
