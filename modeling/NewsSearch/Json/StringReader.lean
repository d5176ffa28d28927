import NewsSearch.Json.Cause

/-!
# Reading a JSON string

A string is read character by character after its opening quote. An escape `\\u` takes the next four
bytes at once and only then looks at them, so it may end inside a character.
-/

namespace NewsSearch.Json

/-- Where in a string the reader is. -/
inductive StringReader.Phase
  /-- Between two characters of the content -/
  | plain
  /-- After a backslash -/
  | escape
  /-- In the four bytes after `\u`: the leading surrogate before it, the bytes taken, and the number
  they make if all are hexadecimal digits -/
  | code (leading : Option Nat) (taken : Nat) (number : Option Nat)
  /-- After a leading surrogate, before the backslash of the trailing one -/
  | pairBackslash (leading : Nat)
  /-- After that backslash -/
  | pairLetter (leading : Nat)
deriving DecidableEq, Repr

/-- A string of which some characters have been read; the content so far, latest first. -/
structure StringReader where
  content : List Char
  phase : StringReader.Phase
deriving DecidableEq, Repr

namespace StringReader

/-- A string of which only the opening quote has been read. -/
def opened : StringReader := ⟨[], .plain⟩

/-- What one more character leads to. -/
inductive Progress
  | more (reader : StringReader)
  | closed (text : String)
deriving DecidableEq, Repr

def hexDigit? (c : Char) : Option Nat :=
  if '0' ≤ c ∧ c ≤ '9' then some (c.toNat - 48)
  else if 'a' ≤ c ∧ c ≤ 'f' then some (c.toNat - 87)
  else if 'A' ≤ c ∧ c ≤ 'F' then some (c.toNat - 55)
  else none

/-- The character that a short escape stands for. -/
def shortEscape? (c : Char) : Option Char :=
  match c with
  | '"' => some '"'
  | '\\' => some '\\'
  | '/' => some '/'
  | 'b' => some '\x08'
  | 'f' => some '\x0c'
  | 'n' => some '\n'
  | 'r' => some '\r'
  | 't' => some '\t'
  | _ => none

def isLeading (n : Nat) : Bool := 0xD800 ≤ n && n ≤ 0xDBFF
def isTrailing (n : Nat) : Bool := 0xDC00 ≤ n && n ≤ 0xDFFF

/-- The same string with one more character. -/
def push (l : StringReader) (c : Char) : StringReader := ⟨c :: l.content, .plain⟩

/-- What a complete `\u` escape leads to. A skipped string is not checked for surrogates. -/
def resolve (strict : Bool) (l : StringReader) (leading : Option Nat) (n : Nat) :
    Except Cause StringReader :=
  if ¬ strict then .ok (l.push (Char.ofNat n))
  else match leading with
    | none =>
      if isTrailing n then .error .loneSurrogate
      else if isLeading n then .ok { l with phase := .pairBackslash n }
      else .ok (l.push (Char.ofNat n))
    | some first =>
      if isTrailing n then
        .ok (l.push (Char.ofNat ((first - 0xD800) * 0x400 + (n - 0xDC00) + 0x10000)))
      else .error .loneSurrogate

/-- Reads one more character. With an error comes the number of its bytes up to the fault. -/
def step (strict : Bool) (l : StringReader) (c : Char) : Except (Cause × Nat) Progress :=
  match l.phase with
  | .plain =>
    if c = '"' then .ok (.closed (String.ofList l.content.reverse))
    else if c = '\\' then .ok (.more { l with phase := .escape })
    else if c.toNat < 0x20 then .error (.controlCharacter, 1)
    else .ok (.more (l.push c))
  | .escape =>
    if c = 'u' then .ok (.more { l with phase := .code none 0 (some 0) })
    else match shortEscape? c with
      | some e => .ok (.more (l.push e))
      | none => .error (.invalidEscape, 1)
  | .code leading taken number =>
    let number := do pure ((← number) * 16 + (← hexDigit? c))
    if taken + c.utf8Size < 4 then
      .ok (.more { l with phase := .code leading (taken + c.utf8Size) number })
    else match number with
      | none => .error (.invalidEscape, 4 - taken)
      | some n => match l.resolve strict leading n with
        | .error e => .error (e, 1)
        | .ok l' => .ok (.more l')
  | .pairBackslash first =>
    if c = '\\' then .ok (.more { l with phase := .pairLetter first })
    else .error (.unfinishedSurrogatePair, 1)
  | .pairLetter first =>
    if c = 'u' then .ok (.more { l with phase := .code (some first) 0 (some 0) })
    else .error (.unfinishedSurrogatePair, 1)

end StringReader

end NewsSearch.Json
