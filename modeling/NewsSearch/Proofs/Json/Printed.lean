import NewsSearch.Json.Printer
import NewsSearch.Decode.Decoder
import NewsSearch.Proofs.Json.Move
import NewsSearch.Proofs.Json.Strings
import NewsSearch.Proofs.Json.Tokens
import Mathlib.Data.List.TakeWhile
import Mathlib.Tactic.IntervalCases
import Mathlib.Tactic.SplitIfs

/-!
# Reading printed tokens

Strings, whole numbers and null as the printer writes them are read back, and the reader stops right
after them. What stands between them in any style is blanks.
-/

namespace NewsSearch

open Json Decode

/-! ## Blanks -/

namespace Json

/-- JSON's blanks and nothing else. -/
def AreSpaces (cs : List Char) : Prop := ∀ c ∈ cs, Reader.isSpace c

theorem areSpaces_nil : AreSpaces [] := by simp [AreSpaces]

theorem skipSpaces_append {bs : List Char} (h : AreSpaces bs) (cs : List Char) :
    Reader.skipSpaces (bs ++ cs) = Reader.skipSpaces cs :=
  List.dropWhile_append_of_pos h

theorem skipSpaces_cons {c : Char} (h : Reader.isSpace c = false) (cs : List Char) :
    Reader.skipSpaces (c :: cs) = c :: cs :=
  List.dropWhile_cons_of_neg (by simp [h])

theorem skipSpaces_eq_nil {bs : List Char} (h : AreSpaces bs) : Reader.skipSpaces bs = [] :=
  List.dropWhile_eq_nil_iff.mpr h

/-- The text does not go on with a number that stands before it. -/
def EndsToken (cs : List Char) : Prop := ∀ c ∈ cs.head?, NumberReader.isPart c = false

theorem endsToken_nil : EndsToken [] := by simp [EndsToken]

theorem endsToken_cons {c : Char} (h : NumberReader.isPart c = false) (cs : List Char) :
    EndsToken (c :: cs) := by
  simpa [EndsToken] using h

theorem isPart_of_isSpace {c : Char} (h : Reader.isSpace c) : NumberReader.isPart c = false := by
  simp only [Reader.isSpace, Bool.or_eq_true, beq_iff_eq] at h
  rcases h with ((rfl | rfl) | rfl) | rfl <;> rfl

theorem endsToken_spaces {bs cs : List Char} (h : AreSpaces bs) (hcs : EndsToken cs) :
    EndsToken (bs ++ cs) := by
  cases bs with
  | nil => exact hcs
  | cons b bs => exact endsToken_cons (isPart_of_isSpace (h b List.mem_cons_self)) _

end Json

namespace Json.Printer

/-- A style that adds blanks to a text and nothing else. -/
structure Style.Spaces (style : Style) : Prop where
  lineBreak : ∀ depth, AreSpaces (style.lineBreak depth)
  afterKey : ∃ bs, style.afterKey = ':' :: bs ∧ AreSpaces bs

theorem spaces_compactStyle : compactStyle.Spaces where
  lineBreak _ := areSpaces_nil
  afterKey := ⟨[], rfl, areSpaces_nil⟩

theorem spaces_prettyStyle : prettyStyle.Spaces where
  lineBreak depth c hc := by
    simp only [prettyStyle, List.mem_cons, List.mem_replicate] at hc
    rcases hc with rfl | ⟨-, rfl⟩ <;> rfl
  afterKey := ⟨[' '], rfl, by simp [AreSpaces, Reader.isSpace]⟩

end Json.Printer

/-! ## Strings -/

section Strings

open Json.Grammar Json.Printer

theorem hexDigit?_hexDigit {n : Nat} (h : n < 16) :
    StringReader.hexDigit? (hexDigit n) = some n := by
  have hall : ∀ n < 16, StringReader.hexDigit? (hexDigit n) = some n := by decide
  exact hall n h

theorem denotes_escapedChar {cs s : List Char} (h : Denotes cs s) (c : Char) :
    Denotes (escapedChar c ++ cs) (c :: s) := by
  unfold escapedChar
  split_ifs with hquote hslash hb hf hn hr ht hcontrol
  case pos => subst hquote; exact .escape rfl h
  case pos => subst hslash; exact .escape rfl h
  case pos => subst hb; exact .escape rfl h
  case pos => subst hf; exact .escape rfl h
  case pos => subst hn; exact .escape rfl h
  case pos => subst hr; exact .escape rfl h
  case pos => subst ht; exact .escape rfl h
  case pos =>
    have hcode : IsCode '0' '0' (hexDigit (c.toNat / 16)) (hexDigit (c.toNat % 16)) c.toNat :=
      ⟨0, 0, _, _, rfl, rfl, hexDigit?_hexDigit (by omega), hexDigit?_hexDigit (by omega), by omega⟩
    have hleading : StringReader.isLeading c.toNat = false := by
      simp only [StringReader.isLeading, Bool.and_eq_false_iff, decide_eq_false_iff_not]
      omega
    have htrailing : StringReader.isTrailing c.toNat = false := by
      simp only [StringReader.isTrailing, Bool.and_eq_false_iff, decide_eq_false_iff_not]
      omega
    have hread := Denotes.code hcode hleading htrailing h
    rwa [Char.ofNat_toNat] at hread
  case neg => exact .char hquote hslash (Nat.le_of_not_lt hcontrol) h

theorem denotes_escaped (cs : List Char) : Denotes (cs.flatMap escapedChar) cs := by
  induction cs with
  | nil => exact .nil
  | cons c cs ih => exact denotes_escapedChar ih c

theorem readString_stringText (s : String) (rest : List Char) :
    readString .opened (s.toList.flatMap escapedChar ++ '"' :: rest) = .ok (s, rest) :=
  readString_denotes (denotes_escaped s.toList) rest

end Strings

/-! ## Null and whole numbers -/

namespace Json.Reader

variable {rules : Rules}

theorem scan_done (n : Nat) (v : Value) (stack : List Frame) (cs : List Char) :
    scan rules n ⟨.done v, stack⟩ cs = .ok (v, cs) := by
  cases cs <;> rfl

/-- The reader of a number after all its digits. -/
def afterDigits (n : Nat) : NumberReader :=
  ⟨false, if n = 0 then .zero else .whole, n, 0, false, 0⟩

theorem digit?_digitChar {d : Nat} (h : d < 10) : NumberReader.digit? d.digitChar = some d := by
  have hall : ∀ d < 10, NumberReader.digit? d.digitChar = some d := by decide
  exact hall d h

theorem scan_digit (j : Nat) {d : Nat} (h : d < 10) (rest : List Char) :
    scan rules j initial (d.digitChar :: rest) =
      scan rules (j + d.digitChar.utf8Size) ⟨.number (afterDigits d), []⟩ rest := by
  have hall : ∀ d < 10, isSpace d.digitChar = false ∧
      begin rules [] d.digitChar = .ok ⟨.number (.start false d), []⟩ := by
    intro d h
    interval_cases d <;> exact ⟨rfl, rfl⟩
  obtain ⟨hspace, hbegin⟩ := hall d h
  simp [scan, initial, settle, step, hspace, stepToken, hbegin, atFirstByte, Except.mapError,
    NumberReader.start, afterDigits]

/-- The digits of a number that fits the significand are all taken. -/
theorem scan_decimal (n : Nat) (h : n < NumberReader.significandLimit) (rest : List Char) :
    ∃ j, scan rules 0 initial (Text.decimal n ++ rest) =
      scan rules j ⟨.number (afterDigits n), []⟩ rest := by
  induction n using Nat.strongRecOn generalizing rest with
  | ind n ih =>
    unfold Text.decimal at ih ⊢
    by_cases hn : n < 10
    · rw [Nat.toDigits_of_lt_base hn]
      exact ⟨_, scan_digit 0 hn rest⟩
    · have hd : n % 10 < 10 := Nat.mod_lt _ (by decide)
      have hvalue : n / 10 * 10 + n % 10 = n := by omega
      have hzero : n / 10 ≠ 0 := by omega
      obtain ⟨j, hj⟩ := ih (n / 10) (by omega) (by omega) ((n % 10).digitChar :: rest)
      rw [Nat.toDigits_of_base_le (by decide) (by omega), List.append_assoc, List.singleton_append, hj]
      refine ⟨j + (n % 10).digitChar.utf8Size, ?_⟩
      have hpos : n ≠ 0 := by omega
      simp [scan, settle, step, NumberReader.step, afterDigits, digit?_digitChar hd, hzero, hvalue, h, hpos]

theorem endNumber_afterDigits (n : Nat) (stack : List Frame) :
    endNumber rules (afterDigits n) stack = .ok (supply (.number (.integer n)) stack) := by
  have hvalue : (afterDigits n).value? = some (.integer n) := by
    by_cases hn : n = 0 <;> simp [NumberReader.value?, afterDigits, hn]
  rw [endNumber, hvalue]

/-- A complete number ends where the token does. -/
theorem scan_complete {stack : List Frame} {n : NumberReader} (hn : n.isComplete) (k : Nat) {rest : List Char}
    (hrest : EndsToken rest) : scan rules k ⟨.number n, stack⟩ rest =
      match endNumber rules n stack with
      | .ok st => scan rules k st rest
      | .error e => .error ⟨e, k⟩ := by
  cases rest with
  | nil =>
    rw [scan, finish]
    simp only [hn, not_true_eq_false, if_false, bind, Except.bind]
    cases hend : endNumber rules n stack with
    | error e => rfl
    | ok st =>
      obtain ⟨v, -, rfl⟩ := endNumber_eq_ok hend
      cases stack with
      | nil => rfl
      | cons frame stack => cases frame <;> rfl
  | cons c cs =>
    have hnone : n.step rules.strict c = .ok none := by
      rw [n.step_of_not_part (hrest c rfl), n.step_space, if_pos hn]
    have hsettle : settle rules ⟨.number n, stack⟩ c =
        (endNumber rules n stack).mapError (·, 0) := by
      simp only [settle, hnone]
    rw [scan, hsettle]
    cases hend : endNumber rules n stack with
    | error e => rfl
    | ok st =>
      obtain ⟨v, -, rfl⟩ := endNumber_eq_ok hend
      have hsame : settle rules (supply v stack) c = .ok (supply v stack) := by
        unfold supply
        split <;> rfl
      dsimp only [Except.mapError]
      rw [scan, hsame]

theorem scan_afterDigits (j n : Nat) {rest : List Char} (h : EndsToken rest) :
    scan rules j ⟨.number (afterDigits n), []⟩ rest = .ok (.number (.integer n), rest) := by
  have hcomplete : (afterDigits n).isComplete := by
    by_cases hn : n = 0 <;> simp [NumberReader.isComplete, afterDigits, hn]
  rw [scan_complete hcomplete j h, endNumber_afterDigits]
  exact scan_done j _ [] rest

end Json.Reader

theorem readValue_null (room : Nat) (rest : List Char) :
    readValue room ("null".toList ++ rest) = .ok (.null, rest) := by
  have hscan : Reader.scan ⟨true, room⟩ 0 Reader.initial ("null".toList ++ rest) =
      Reader.scan ⟨true, room⟩ 4 ⟨.done .null, []⟩ rest := rfl
  rw [readValue, hscan, Reader.scan_done]

theorem readValue_decimal (room : Nat) {n : Nat} (h : n < NumberReader.significandLimit)
    {rest : List Char} (hrest : EndsToken rest) :
    readValue room (Text.decimal n ++ rest) = .ok (.number (.integer n), rest) := by
  obtain ⟨j, hj⟩ := @Reader.scan_decimal ⟨true, room⟩ n h rest
  rw [readValue, hj, Reader.scan_afterDigits j n hrest]

end NewsSearch
