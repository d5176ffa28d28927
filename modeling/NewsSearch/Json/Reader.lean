import NewsSearch.Json.NumberReader
import NewsSearch.Json.StringReader

/-!
# Reading JSON text

The reader is a machine that takes one character at a time. Its state is what it expects next and a
stack of the lists and objects around that place. A strict reader keeps what it reads. A lenient one
is for values that nobody needs: it leaves the range of numbers, surrogates and the nesting
unchecked, and words some faults differently.
-/

namespace NewsSearch.Json

/-- A list or an object around the value that is being read: the items so far, latest first, or the
members so far and the key of this value. -/
inductive Frame
  | item (items : List Value)
  | member (members : Members) (key : String)

/-- What a reader expects next. -/
inductive Goal
  /-- A value -/
  | value
  /-- An item or the end, just after the opening bracket -/
  | itemOrEnd
  /-- An item, after a comma -/
  | item (items : List Value)
  /-- A comma or the end, after an item -/
  | itemEnd (items : List Value)
  /-- A key or the end, just after the opening brace -/
  | keyOrEnd
  /-- A key, after a comma -/
  | key (members : Members)
  /-- The rest of a key -/
  | keyText (members : Members) (reader : StringReader)
  /-- The colon after a key -/
  | colon (members : Members) (key : String)
  /-- A comma or the end, after a member -/
  | memberEnd (members : Members)
  /-- The rest of a string -/
  | text (reader : StringReader)
  /-- The rest of a number -/
  | number (number : NumberReader)
  /-- The letters left of `null`, `true` or `false` -/
  | word (letters : List Char) (value : Value)
  /-- Nothing: the value is complete -/
  | done (value : Value)

/-- A goal and the frames around it, the innermost first. -/
structure State where
  goal : Goal
  stack : List Frame

/-- How much a reader checks, and how many brackets may stand open at once. -/
structure Rules where
  strict : Bool
  room : Nat

namespace Reader

/-- The brackets that may stand open in a text. -/
def maxOpen : Nat := 127

/-- Reads a whole text. -/
def strictRules : Rules := ⟨true, maxOpen⟩

def isSpace (c : Char) : Bool := c == ' ' || c == '\t' || c == '\n' || c == '\r'

def skipSpaces (cs : List Char) : List Char := cs.dropWhile isSpace

/-- The state before a text. -/
def initial : State := ⟨.value, []⟩

/-- Puts a complete value into the innermost frame. -/
def supply (v : Value) : List Frame → State
  | [] => ⟨.done v, []⟩
  | .item items :: rest => ⟨.itemEnd (v :: items), rest⟩
  | .member members key :: rest => ⟨.memberEnd (put key v members), rest⟩

/-- Opens a list or an object, if there is room for one more. -/
def openBracket (rules : Rules) (goal : Goal) (stack : List Frame) : Except Cause State :=
  if rules.strict ∧ rules.room ≤ stack.length then .error .tooDeep else .ok ⟨goal, stack⟩

/-- Starts a value with its first character. -/
def begin (rules : Rules) (stack : List Frame) (c : Char) : Except Cause State :=
  match c with
  | 'n' => .ok ⟨.word "ull".toList .null, stack⟩
  | 't' => .ok ⟨.word "rue".toList (.bool true), stack⟩
  | 'f' => .ok ⟨.word "alse".toList (.bool false), stack⟩
  | '"' => .ok ⟨.text .opened, stack⟩
  | '[' => openBracket rules .itemOrEnd stack
  | '{' => openBracket rules .keyOrEnd stack
  | '-' => .ok ⟨.number .minus, stack⟩
  | c => match NumberReader.digit? c with
    | some d => .ok ⟨.number (.start false d), stack⟩
    | none => .error .expectedValue

/-- The state after a number, if it is in range. -/
def endNumber (rules : Rules) (n : NumberReader) (stack : List Frame) : Except Cause State :=
  match n.value? with
  | some v => .ok (supply (.number v) stack)
  | none =>
    if rules.strict then .error .numberOutOfRange else .ok (supply .null stack)

/-- The cause of a fault and the number of bytes, of the character at hand, up to it. -/
abbrev Strike := Cause × Nat

/-- Marks the fault at the first byte of the character at hand. -/
def atFirstByte (r : Except Cause State) : Except Strike State := r.mapError (·, 1)

/-- Ends a number before a character that is no part of it. The fault of a number out of range is at
the character before. Every other state stays. -/
def settle (rules : Rules) (st : State) (c : Char) : Except Strike State :=
  match st.goal with
  | .number n =>
    match n.step rules.strict c with
    | .error e => .error (e, 1)
    | .ok (some _) => .ok st
    | .ok none => (endNumber rules n st.stack).mapError (·, 0)
  | _ => .ok st

/-- The end of a list. -/
def closeList (items : List Value) (stack : List Frame) : State :=
  supply (.array items.reverse) stack

/-- Takes one character, which is no blank, where blanks may stand. -/
def stepToken (rules : Rules) (st : State) (c : Char) : Except Cause State :=
  match st.goal with
  | .value => begin rules st.stack c
  | .itemOrEnd =>
    if c = ']' then .ok (closeList [] st.stack) else begin rules (.item [] :: st.stack) c
  | .item items =>
    if c = ']' ∧ rules.strict then .error .trailingComma
    else begin rules (.item items :: st.stack) c
  | .itemEnd items =>
    if c = ',' then .ok ⟨.item items, st.stack⟩
    else if c = ']' then .ok (closeList items st.stack)
    else .error .expectedListSeparator
  | .keyOrEnd =>
    if c = '}' then .ok (supply (.object []) st.stack)
    else if c = '"' then .ok ⟨.keyText [] .opened, st.stack⟩
    else .error .keyNotString
  | .key members =>
    if c = '"' then .ok ⟨.keyText members .opened, st.stack⟩
    else if c = '}' ∧ rules.strict then .error .trailingComma
    else .error .keyNotString
  | .colon members key =>
    if c = ':' then .ok ⟨.value, .member members key :: st.stack⟩ else .error .expectedColon
  | .memberEnd members =>
    if c = ',' then .ok ⟨.key members, st.stack⟩
    else if c = '}' then .ok (supply (.object members) st.stack)
    else .error .expectedObjectSeparator
  | .done _ => .error .trailingCharacters
  | _ => .ok st

/-- Takes one character, after `settle`. -/
def step (rules : Rules) (st : State) (c : Char) : Except Strike State :=
  match st.goal with
  | .keyText members reader =>
    match reader.step rules.strict c with
    | .error e => .error e
    | .ok (.more l) => .ok ⟨.keyText members l, st.stack⟩
    | .ok (.closed s) => .ok ⟨.colon members s, st.stack⟩
  | .text reader =>
    match reader.step rules.strict c with
    | .error e => .error e
    | .ok (.more l) => .ok ⟨.text l, st.stack⟩
    | .ok (.closed s) => .ok (supply (.string s) st.stack)
  | .number n =>
    match n.step rules.strict c with
    | .error e => .error (e, 1)
    | .ok (some n') => .ok ⟨.number n', st.stack⟩
    | .ok none => .ok st
  | .word [] value => .ok (supply value st.stack)
  | .word (letter :: rest) value =>
    if c ≠ letter then .error (.expectedWord, 1)
    else if rest.isEmpty then .ok (supply value st.stack)
    else .ok ⟨.word rest value, st.stack⟩
  | _ => if isSpace c then .ok st else atFirstByte (stepToken rules st c)

/-- Ends the text. -/
def finish (rules : Rules) (st : State) : Except Cause Value :=
  match st.goal with
  | .value | .item _ | .word _ _ => .error .endInValue
  | .itemOrEnd | .itemEnd _ => .error .endInList
  | .keyOrEnd | .colon _ _ | .memberEnd _ => .error .endInObject
  | .key _ => .error (if rules.strict then .endInValue else .endInObject)
  | .keyText _ _ | .text _ => .error .endInString
  | .number n =>
    if ¬ n.isComplete then .error (if rules.strict then .endInValue else .invalidNumber)
    else do
      match (← endNumber rules n st.stack) with
      | ⟨.done v, _⟩ => .ok v
      | ⟨.itemEnd _, _⟩ => .error .endInList
      | _ => .error .endInObject
  | .done v => .ok v

/-- Takes characters until a value is complete, and gives it with what is left of the text. The
first argument is the number of bytes before the characters. -/
def scan (rules : Rules) (read : Nat) (st : State) :
    List Char → Except Fault (Value × List Char)
  | [] =>
    match finish rules st with
    | .ok v => .ok (v, [])
    | .error e => .error ⟨e, read⟩
  | c :: cs =>
    match settle rules st c with
    | .error (e, n) => .error ⟨e, read + n⟩
    | .ok ⟨.done v, _⟩ => .ok (v, c :: cs)
    | .ok st =>
      match step rules st c with
      | .error (e, n) => .error ⟨e, read + n⟩
      | .ok st => scan rules (read + c.utf8Size) st cs

/-- The bytes of a text. -/
def byteCount (cs : List Char) : Nat := cs.foldr (fun c n => c.utf8Size + n) 0

/-- Reads one value that makes up the whole text. -/
def read (cs : List Char) : Except Fault Value :=
  match scan strictRules 0 initial cs with
  | .error e => .error e
  | .ok (v, rest) =>
    match skipSpaces rest with
    | [] => .ok v
    | c :: more => .error ⟨.trailingCharacters, byteCount cs - byteCount (c :: more) + 1⟩

end Reader

end NewsSearch.Json
