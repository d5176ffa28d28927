import NewsSearch.Proofs.Json.Run

/-!
# The moves of the reader

`Move` lists what one character can do to a state, a constructor for each rule of the grammar.
`move_of_advance` says that the machine makes no other moves, so a fact about every step is a case
for each of them.
-/

namespace NewsSearch.Json

/-- Between the parts of the grammar, where blanks may stand. -/
def Goal.isBetween : Goal → Bool
  | .keyText _ _ | .text _ | .number _ | .word _ _ => false
  | _ => true

/-- The frames around a value that may begin in a state. -/
def State.valueStack? : State → Option (List Frame)
  | ⟨.value, stack⟩ => some stack
  | ⟨.itemOrEnd, stack⟩ => some (.item [] :: stack)
  | ⟨.item items, stack⟩ => some (.item items :: stack)
  | _ => none

namespace Reader

variable {rules : Rules}

/-- The first character of a value. -/
inductive Start (rules : Rules) (stack : List Frame) : Char → State → Prop
  | null : Start rules stack 'n' ⟨.word "ull".toList .null, stack⟩
  | true : Start rules stack 't' ⟨.word "rue".toList (.bool true), stack⟩
  | false : Start rules stack 'f' ⟨.word "alse".toList (.bool false), stack⟩
  | string : Start rules stack '"' ⟨.text .opened, stack⟩
  | list (room : rules.strict → stack.length < rules.room) :
    Start rules stack '[' ⟨.itemOrEnd, stack⟩
  | object (room : rules.strict → stack.length < rules.room) :
    Start rules stack '{' ⟨.keyOrEnd, stack⟩
  | minus : Start rules stack '-' ⟨.number .minus, stack⟩
  | digit {c : Char} {d : Nat} (hd : NumberReader.digit? c = some d) :
    Start rules stack c ⟨.number (.start Bool.false d), stack⟩

/-- One character of a text. -/
inductive Move (rules : Rules) : State → Char → State → Prop
  | blank {st : State} {c : Char} (hg : st.goal.isBetween) (hc : isSpace c) : Move rules st c st
  | start {st st' : State} {stack : List Frame} {c : Char} (hs : st.valueStack? = some stack)
      (hstart : Start rules stack c st') : Move rules st c st'
  | emptyList {stack : List Frame} :
    Move rules ⟨.itemOrEnd, stack⟩ ']' (supply (.array []) stack)
  | nextItem {items : List Value} {stack : List Frame} :
    Move rules ⟨.itemEnd items, stack⟩ ',' ⟨.item items, stack⟩
  | endList {items : List Value} {stack : List Frame} :
    Move rules ⟨.itemEnd items, stack⟩ ']' (supply (.array items.reverse) stack)
  | emptyObject {stack : List Frame} :
    Move rules ⟨.keyOrEnd, stack⟩ '}' (supply (.object []) stack)
  | firstKey {stack : List Frame} :
    Move rules ⟨.keyOrEnd, stack⟩ '"' ⟨.keyText [] .opened, stack⟩
  | nextKey {members : Members} {stack : List Frame} :
    Move rules ⟨.key members, stack⟩ '"' ⟨.keyText members .opened, stack⟩
  | colon {members : Members} {key : String} {stack : List Frame} :
    Move rules ⟨.colon members key, stack⟩ ':' ⟨.value, .member members key :: stack⟩
  | nextMember {members : Members} {stack : List Frame} :
    Move rules ⟨.memberEnd members, stack⟩ ',' ⟨.key members, stack⟩
  | endObject {members : Members} {stack : List Frame} :
    Move rules ⟨.memberEnd members, stack⟩ '}' (supply (.object members) stack)
  | inKey {members : Members} {r r' : StringReader} {stack : List Frame} {c : Char}
      (h : r.step rules.strict c = .ok (.more r')) :
    Move rules ⟨.keyText members r, stack⟩ c ⟨.keyText members r', stack⟩
  | endKey {members : Members} {r : StringReader} {key : String} {stack : List Frame} {c : Char}
      (h : r.step rules.strict c = .ok (.closed key)) :
    Move rules ⟨.keyText members r, stack⟩ c ⟨.colon members key, stack⟩
  | inString {r r' : StringReader} {stack : List Frame} {c : Char}
      (h : r.step rules.strict c = .ok (.more r')) :
    Move rules ⟨.text r, stack⟩ c ⟨.text r', stack⟩
  | endString {r : StringReader} {s : String} {stack : List Frame} {c : Char}
      (h : r.step rules.strict c = .ok (.closed s)) :
    Move rules ⟨.text r, stack⟩ c (supply (.string s) stack)
  | letter {c : Char} {letters : List Char} {v : Value} {stack : List Frame} (h : letters ≠ []) :
    Move rules ⟨.word (c :: letters) v, stack⟩ c ⟨.word letters v, stack⟩
  | lastLetter {c : Char} {v : Value} {stack : List Frame} :
    Move rules ⟨.word [c] v, stack⟩ c (supply v stack)
  | noLetter {c : Char} {v : Value} {stack : List Frame} :
    Move rules ⟨.word [] v, stack⟩ c (supply v stack)
  | inNumber {n n' : NumberReader} {stack : List Frame} {c : Char}
      (h : n.step rules.strict c = .ok (some n')) :
    Move rules ⟨.number n, stack⟩ c ⟨.number n', stack⟩
  | endNumber {n : NumberReader} {stack : List Frame} {c : Char} {st st' : State}
      (h : n.step rules.strict c = .ok none) (hn : endNumber rules n stack = .ok st)
      (hm : Move rules st c st') :
    Move rules ⟨.number n, stack⟩ c st'

/-! ## One character, by what is expected -/

theorem advance_between {st : State} (hg : st.goal.isBetween) (c : Char) :
    advance rules st c = if isSpace c then .ok st else atFirstByte (stepToken rules st c) := by
  obtain ⟨goal, stack⟩ := st
  cases goal <;> first | rfl | cases hg

theorem advance_keyText (members : Members) (r : StringReader) (stack : List Frame) (c : Char) :
    advance rules ⟨.keyText members r, stack⟩ c =
      match r.step rules.strict c with
      | .error e => .error e
      | .ok (.more r') => .ok ⟨.keyText members r', stack⟩
      | .ok (.closed s) => .ok ⟨.colon members s, stack⟩ := rfl

theorem advance_text (r : StringReader) (stack : List Frame) (c : Char) :
    advance rules ⟨.text r, stack⟩ c =
      match r.step rules.strict c with
      | .error e => .error e
      | .ok (.more r') => .ok ⟨.text r', stack⟩
      | .ok (.closed s) => .ok (supply (.string s) stack) := rfl

theorem advance_letter (letter : Char) (letters : List Char) (v : Value) (stack : List Frame)
    (c : Char) :
    advance rules ⟨.word (letter :: letters) v, stack⟩ c =
      if c ≠ letter then .error (.expectedWord, 1)
      else if letters.isEmpty then .ok (supply v stack)
      else .ok ⟨.word letters v, stack⟩ := rfl

theorem supply_isBetween (v : Value) (stack : List Frame) :
    (supply v stack).goal.isBetween := by
  unfold supply
  split <;> rfl

theorem endNumber_eq_ok {n : NumberReader} {stack : List Frame} {st : State}
    (h : endNumber rules n stack = .ok st) :
    ∃ v, (v = .null ∨ ∃ x, v = .number x) ∧ st = supply v stack := by
  unfold endNumber at h
  split at h
  · rename_i x _
    exact ⟨.number x, .inr ⟨x, rfl⟩, by simpa using h.symm⟩
  · split at h
    · cases h
    · exact ⟨.null, .inl rfl, by simpa using h.symm⟩

theorem advance_number (n : NumberReader) (stack : List Frame) (c : Char) :
    advance rules ⟨.number n, stack⟩ c =
      match n.step rules.strict c with
      | .error e => .error (e, 1)
      | .ok (some n') => .ok ⟨.number n', stack⟩
      | .ok none =>
        match endNumber rules n stack with
        | .error e => .error (e, 0)
        | .ok st => advance rules st c := by
  cases hn : n.step rules.strict c with
  | error e => simp [advance, settle, hn]
  | ok o =>
    cases o with
    | some n' => simp [advance, settle, step, hn]
    | none =>
      cases he : endNumber rules n stack with
      | error e =>
        simp only [advance, settle, hn, he]
        rfl
      | ok st =>
        obtain ⟨v, -, rfl⟩ := endNumber_eq_ok he
        have hs : advance rules (supply v stack) c = step rules (supply v stack) c := by
          unfold supply
          split <;> rfl
        dsimp only
        rw [hs]
        simp only [advance, settle, hn, he]
        rfl

/-! ## The machine makes these moves -/

theorem start_of_begin {stack : List Frame} {c : Char} {st : State}
    (h : begin rules stack c = .ok st) : Start rules stack c st := by
  unfold begin openBracket at h
  split at h
  case h_5 | h_6 =>
    split at h
    · cases h
    · rename_i hr
      cases h
      constructor
      intro hstrict
      exact Nat.lt_of_not_le fun hle => hr ⟨hstrict, hle⟩
  case h_8 =>
    split at h
    · cases h
      exact .digit ‹_›
    · cases h
  all_goals
    cases h
    constructor

@[simp] theorem atFirstByte_error (e : Cause) : atFirstByte (.error e) = .error (e, 1) := rfl

@[simp] theorem atFirstByte_ok (st : State) : atFirstByte (.ok st) = .ok st := rfl

theorem atFirstByte_eq_ok {r : Except Cause State} {st : State} :
    atFirstByte r = .ok st ↔ r = .ok st := by
  cases r <;> simp

theorem move_of_stepToken {st st' : State} {c : Char} (hg : st.goal.isBetween)
    (h : stepToken rules st c = .ok st') : Move rules st c st' := by
  obtain ⟨goal, stack⟩ := st
  cases goal with
  | value => exact .start rfl (start_of_begin h)
  | itemOrEnd =>
    simp only [stepToken] at h
    split at h
    · rename_i hc
      cases h; subst hc
      exact .emptyList
    · exact .start rfl (start_of_begin h)
  | item items =>
    simp only [stepToken] at h
    split at h
    · cases h
    · exact .start rfl (start_of_begin h)
  | itemEnd items =>
    simp only [stepToken] at h
    split at h
    · rename_i hc
      cases h; subst hc
      exact .nextItem
    · split at h
      · rename_i hc
        cases h; subst hc
        exact .endList
      · cases h
  | keyOrEnd =>
    simp only [stepToken] at h
    split at h
    · rename_i hc
      cases h; subst hc
      exact .emptyObject
    · split at h
      · rename_i hc
        cases h; subst hc
        exact .firstKey
      · cases h
  | key members =>
    simp only [stepToken] at h
    split at h
    · rename_i hc
      cases h; subst hc
      exact .nextKey
    · split at h <;> cases h
  | colon members key =>
    simp only [stepToken] at h
    split at h
    · rename_i hc
      cases h; subst hc
      exact .colon
    · cases h
  | memberEnd members =>
    simp only [stepToken] at h
    split at h
    · rename_i hc
      cases h; subst hc
      exact .nextMember
    · split at h
      · rename_i hc
        cases h; subst hc
        exact .endObject
      · cases h
  | done v => cases h
  | keyText _ _ | text _ | number _ | word _ _ => cases hg

theorem move_of_between {st st' : State} {c : Char} (hg : st.goal.isBetween)
    (h : advance rules st c = .ok st') : Move rules st c st' := by
  rw [advance_between hg] at h
  split at h
  · rename_i hc
    cases h
    exact .blank hg hc
  · exact move_of_stepToken hg (atFirstByte_eq_ok.mp h)

theorem move_of_advance {st st' : State} {c : Char} (h : advance rules st c = .ok st') :
    Move rules st c st' := by
  obtain ⟨goal, stack⟩ := st
  cases goal with
  | keyText members r =>
    rw [advance_keyText] at h
    split at h
    · cases h
    · cases h
      exact .inKey ‹_›
    · cases h
      exact .endKey ‹_›
  | text r =>
    rw [advance_text] at h
    split at h
    · cases h
    · cases h
      exact .inString ‹_›
    · cases h
      exact .endString ‹_›
  | number n =>
    rw [advance_number] at h
    split at h
    · cases h
    · cases h
      exact .inNumber ‹_›
    · rename_i hn
      split at h
      · cases h
      · rename_i st he
        obtain ⟨v, -, rfl⟩ := endNumber_eq_ok he
        exact .endNumber hn he (move_of_between (supply_isBetween v stack) h)
  | word letters v =>
    cases letters with
    | nil =>
      cases h
      exact .noLetter
    | cons letter letters =>
      rw [advance_letter] at h
      split at h
      · cases h
      · rename_i hc
        obtain rfl : c = letter := Decidable.not_not.mp hc
        split at h
        · rename_i hl
          cases h
          obtain rfl : letters = [] := List.isEmpty_iff.mp hl
          exact .lastLetter
        · rename_i hl
          cases h
          exact .letter (by simpa using hl)
  | _ => exact move_of_between rfl h

/-! ## The end of the text -/

/-- A text may end after a value, and after a number that is the whole value. -/
theorem finish_eq_ok {st : State} {v : Value} (h : finish rules st = .ok v) :
    (∃ stack, st = ⟨.done v, stack⟩) ∨
      ∃ n, st = ⟨.number n, []⟩ ∧ (v = .null ∨ ∃ x, v = .number x) := by
  obtain ⟨goal, stack⟩ := st
  cases goal with
  | done w =>
    cases h
    exact .inl ⟨stack, rfl⟩
  | number n =>
    simp only [finish] at h
    split at h
    · cases h
    · cases hn : endNumber rules n stack with
      | error e =>
        rw [hn] at h
        cases h
      | ok st =>
        obtain ⟨w, hw, rfl⟩ := endNumber_eq_ok hn
        rw [hn] at h
        cases stack with
        | nil =>
          cases h
          exact .inr ⟨n, rfl, hw⟩
        | cons frame stack => cases frame <;> cases h
  | _ => cases h

end Reader

end NewsSearch.Json
