import NewsSearch.Decode.Decoder
import Mathlib.Tactic.SplitIfs

/-!
# What stands between quotes

Which texts may stand between the quotes of a string, and which characters they stand for. A lenient
reader takes each of them, a strict one closes the string or finds a lone surrogate in it.
-/

namespace NewsSearch.Json

namespace Grammar

def shortEscapes : List Char := ['"', '\\', '/', 'b', 'f', 'n', 'r', 't']

def IsHex (c : Char) : Prop := ('0' ≤ c ∧ c ≤ '9') ∨ ('a' ≤ c ∧ c ≤ 'f') ∨ ('A' ≤ c ∧ c ≤ 'F')

/-- What may stand between the quotes of a string. Escaped surrogates need not come in pairs. -/
inductive IsBody : List Char → Prop
  | nil : IsBody []
  | char {c : Char} {cs : List Char} (hquote : c ≠ '"') (hslash : c ≠ '\\')
      (hcontrol : 0x20 ≤ c.toNat) (h : IsBody cs) : IsBody (c :: cs)
  | escape {c : Char} {cs : List Char} (hc : c ∈ shortEscapes) (h : IsBody cs) :
    IsBody ('\\' :: c :: cs)
  | code {a b c d : Char} {cs : List Char} (ha : IsHex a) (hb : IsHex b) (hc : IsHex c)
      (hd : IsHex d) (h : IsBody cs) : IsBody ('\\' :: 'u' :: a :: b :: c :: d :: cs)

/-- Four hexadecimal digits and the number they make. -/
def IsCode (a b c d : Char) (n : Nat) : Prop :=
  ∃ i j k l, StringReader.hexDigit? a = some i ∧ StringReader.hexDigit? b = some j ∧
    StringReader.hexDigit? c = some k ∧ StringReader.hexDigit? d = some l ∧
    n = ((i * 16 + j) * 16 + k) * 16 + l

/-- What stands between the quotes for some characters. Here escaped surrogates come in pairs. -/
inductive Denotes : List Char → List Char → Prop
  | nil : Denotes [] []
  | char {c : Char} {cs s : List Char} (hquote : c ≠ '"') (hslash : c ≠ '\\')
      (hcontrol : 0x20 ≤ c.toNat) (h : Denotes cs s) : Denotes (c :: cs) (c :: s)
  | escape {c e : Char} {cs s : List Char} (he : StringReader.shortEscape? c = some e)
      (h : Denotes cs s) : Denotes ('\\' :: c :: cs) (e :: s)
  | code {a b c d : Char} {n : Nat} {cs s : List Char} (hn : IsCode a b c d n)
      (hleading : StringReader.isLeading n = false) (htrailing : StringReader.isTrailing n = false)
      (h : Denotes cs s) : Denotes ('\\' :: 'u' :: a :: b :: c :: d :: cs) (Char.ofNat n :: s)
  | pair {a b c d a' b' c' d' : Char} {n n' : Nat} {cs s : List Char} (hn : IsCode a b c d n)
      (hleading : StringReader.isLeading n) (hn' : IsCode a' b' c' d' n')
      (htrailing : StringReader.isTrailing n') (h : Denotes cs s) :
    Denotes
      ('\\' :: 'u' :: a :: b :: c :: d :: '\\' :: 'u' :: a' :: b' :: c' :: d' :: cs)
      (Char.ofNat ((n - 0xD800) * 0x400 + (n' - 0xDC00) + 0x10000) :: s)

end Grammar

open Grammar

/-! ## Characters -/

namespace StringReader

theorem hexDigit?_of_isHex {c : Char} (h : IsHex c) :
    ∃ d, hexDigit? c = some d ∧ c.utf8Size = 1 := by
  have hsize {b : Char} (hb : b ≤ 'f') (hc : c ≤ b) : c.utf8Size = 1 :=
    Char.utf8Size_eq_one_iff.mpr (UInt32.le_trans (UInt32.le_trans hc hb) (by decide))
  have hone : c.utf8Size = 1 := by
    rcases h with ⟨-, h⟩ | ⟨-, h⟩ | ⟨-, h⟩ <;> exact hsize (by decide) h
  unfold hexDigit?
  split_ifs with hdigit hlower hupper
  · exact ⟨_, rfl, hone⟩
  · exact ⟨_, rfl, hone⟩
  · exact ⟨_, rfl, hone⟩
  · rcases h with h | h | h <;> contradiction

theorem isHex_of_hexDigit? {c : Char} {n : Nat} (h : hexDigit? c = some n) : IsHex c := by
  unfold hexDigit? at h
  split_ifs at h with hdigit hlower hupper
  · exact .inl hdigit
  · exact .inr (.inl hlower)
  · exact .inr (.inr hupper)

theorem utf8Size_of_hexDigit? {c : Char} {n : Nat} (h : hexDigit? c = some n) : c.utf8Size = 1 := by
  obtain ⟨d, -, hsize⟩ := hexDigit?_of_isHex (isHex_of_hexDigit? h)
  exact hsize

theorem isCode_of_isHex {a b c d : Char} (ha : IsHex a) (hb : IsHex b) (hc : IsHex c)
    (hd : IsHex d) : ∃ n, IsCode a b c d n := by
  obtain ⟨i, ha, -⟩ := hexDigit?_of_isHex ha
  obtain ⟨j, hb, -⟩ := hexDigit?_of_isHex hb
  obtain ⟨k, hc, -⟩ := hexDigit?_of_isHex hc
  obtain ⟨l, hd, -⟩ := hexDigit?_of_isHex hd
  exact ⟨_, i, j, k, l, ha, hb, hc, hd, rfl⟩

theorem not_isTrailing_of_isLeading {n : Nat} (h : isLeading n) : isTrailing n = false := by
  simp only [isLeading, isTrailing, Bool.and_eq_true, decide_eq_true_eq] at h ⊢
  simp only [Bool.and_eq_false_iff, decide_eq_false_iff_not]
  omega

theorem shortEscape?_of_mem {c : Char} (h : c ∈ shortEscapes) :
    c ≠ 'u' ∧ ∃ e, shortEscape? c = some e := by
  have hall : shortEscapes.all (fun c => c != 'u' && (shortEscape? c).isSome) := rfl
  have hc := List.all_eq_true.mp hall c h
  rw [Bool.and_eq_true, bne_iff_ne] at hc
  exact ⟨hc.1, Option.isSome_iff_exists.mp hc.2⟩

/-- The reader after some characters of a string, if none of them is at fault or closes it. -/
def walk (strict : Bool) (r : StringReader) : List Char → Option StringReader
  | [] => some r
  | c :: cs =>
    match r.step strict c with
    | .ok (.more r) => walk strict r cs
    | _ => none

/-- A lenient reader takes every body. -/
theorem walk_body {body : List Char} (h : IsBody body) {r : StringReader} (hr : r.phase = .plain) :
    ∃ r', r.walk false body = some r' ∧ r'.phase = .plain := by
  induction h generalizing r with
  | nil => exact ⟨r, rfl, hr⟩
  | char hquote hslash hcontrol _ ih =>
    have hnot : ¬ _ < 0x20 := Nat.not_lt.mpr hcontrol
    simp only [walk, step, hr, hquote, hslash, hnot, if_false]
    exact ih rfl
  | escape hc _ ih =>
    obtain ⟨hne, e, he⟩ := shortEscape?_of_mem hc
    simp [walk, step, hr, hne, he, push]
    exact ih rfl
  | code ha hb hc hd _ ih =>
    obtain ⟨a, ha, ha'⟩ := hexDigit?_of_isHex ha
    obtain ⟨b, hb, hb'⟩ := hexDigit?_of_isHex hb
    obtain ⟨c, hc, hc'⟩ := hexDigit?_of_isHex hc
    obtain ⟨d, hd, hd'⟩ := hexDigit?_of_isHex hd
    simp [walk, step, hr, ha, ha', hb, hb', hc, hc', hd, hd', resolve, push]
    exact ih rfl

end StringReader

end NewsSearch.Json

/-! ## Strings -/

namespace NewsSearch.Decode

open Json Json.Grammar

theorem readString_fault {r : StringReader} {c : Char} {e : Cause × Nat}
    (h : r.step true c = .error e) (cs : List Char) :
    readString r (c :: cs) = .error (.fault e.1) := by
  rw [readString, h]

variable (content : List Char)

theorem readString_char {c : Char} (hquote : c ≠ '"') (hslash : c ≠ '\\')
    (hcontrol : 0x20 ≤ c.toNat) (cs : List Char) :
    readString ⟨content, .plain⟩ (c :: cs) = readString ⟨c :: content, .plain⟩ cs := by
  have hnot : ¬ c.toNat < 0x20 := Nat.not_lt.mpr hcontrol
  simp only [readString, StringReader.step, hquote, hslash, hnot, if_false, StringReader.push]

theorem readString_escape {c e : Char} (he : StringReader.shortEscape? c = some e)
    (cs : List Char) :
    readString ⟨content, .plain⟩ ('\\' :: c :: cs) = readString ⟨e :: content, .plain⟩ cs := by
  have hne : c ≠ 'u' := by
    rintro rfl
    cases he
  simp [readString, StringReader.step, hne, he, StringReader.push]

theorem readString_open (cs : List Char) : readString ⟨content, .plain⟩ ('\\' :: 'u' :: cs) =
    readString ⟨content, .code none 0 (some 0)⟩ cs := by
  simp [readString, StringReader.step]

theorem readString_pair (n : Nat) (cs : List Char) :
    readString ⟨content, .pairBackslash n⟩ ('\\' :: 'u' :: cs) =
      readString ⟨content, .code (some n) 0 (some 0)⟩ cs := by
  simp [readString, StringReader.step]

/-- Four digits of an escape are taken together. -/
theorem readString_code {a b c d : Char} {n : Nat} (h : IsCode a b c d n) (leading : Option Nat)
    (cs : List Char) : readString ⟨content, .code leading 0 (some 0)⟩ (a :: b :: c :: d :: cs) =
      match StringReader.resolve true ⟨content, .plain⟩ leading n with
      | .error e => .error (.fault e)
      | .ok r => readString r cs := by
  obtain ⟨i, j, k, l, ha, hb, hc, hd, rfl⟩ := h
  have ha' := StringReader.utf8Size_of_hexDigit? ha
  have hb' := StringReader.utf8Size_of_hexDigit? hb
  have hc' := StringReader.utf8Size_of_hexDigit? hc
  have hd' := StringReader.utf8Size_of_hexDigit? hd
  have hphase : StringReader.resolve true
      ⟨content, .code leading 3 (some ((i * 16 + j) * 16 + k))⟩ leading
        (((i * 16 + j) * 16 + k) * 16 + l) =
      StringReader.resolve true ⟨content, .plain⟩ leading
        (((i * 16 + j) * 16 + k) * 16 + l) := rfl
  simp [readString, StringReader.step, ha, ha', hb, hb', hc, hc', hd, hd', hphase]
  cases StringReader.resolve true ⟨content, .plain⟩ leading _ <;> rfl

theorem readString_denotes_after {cs s : List Char} (h : Denotes cs s) (rest : List Char) :
    readString ⟨content, .plain⟩ (cs ++ '"' :: rest) =
      .ok (String.ofList (content.reverse ++ s), rest) := by
  induction h generalizing content with
  | nil => simp [readString, StringReader.step]
  | char hquote hslash hcontrol _ ih =>
    rw [List.cons_append, readString_char content hquote hslash hcontrol, ih]
    simp
  | escape he _ ih =>
    rw [List.cons_append, List.cons_append, readString_escape content he, ih]
    simp
  | code hn hleading htrailing _ ih =>
    simp only [List.cons_append, readString_open, readString_code _ hn, StringReader.resolve,
      hleading, htrailing, StringReader.push, not_true_eq_false, Bool.false_eq_true, if_false]
    rw [ih]
    simp
  | pair hn hleading hn' htrailing _ ih =>
    have hnot := StringReader.not_isTrailing_of_isLeading hleading
    simp only [List.cons_append, readString_open, readString_pair, readString_code _ hn,
      readString_code _ hn', StringReader.resolve, hleading, hnot, htrailing, StringReader.push,
      not_true_eq_false, Bool.false_eq_true, if_false, if_true]
    rw [ih]
    simp

/-- What stands for some characters is read as these. -/
theorem readString_denotes {cs : List Char} {s : String} (h : Denotes cs s.toList)
    (rest : List Char) : readString .opened (cs ++ '"' :: rest) = .ok (s, rest) := by
  have hread := readString_denotes_after [] h rest
  rwa [List.reverse_nil, List.nil_append, String.ofList_toList] at hread

/-- An escape may be a trailing surrogate, or any character if none is waited for. -/
theorem resolve_settled (leading : Option Nat) (n : Nat) :
    (∃ e, StringReader.resolve true ⟨content, .plain⟩ leading n = .error e) ∨
      ∃ content' phase,
        StringReader.resolve true ⟨content, .plain⟩ leading n = .ok ⟨content', phase⟩ ∧ (phase = .plain ∨ ∃ n, phase = .pairBackslash n) := by
  unfold StringReader.resolve
  cases leading with
  | none =>
    simp only [not_true_eq_false, if_false]
    split_ifs
    · exact .inl ⟨_, rfl⟩
    · exact .inr ⟨_, _, rfl, .inr ⟨n, rfl⟩⟩
    · exact .inr ⟨_, _, rfl, .inl rfl⟩
  | some first =>
    simp only [not_true_eq_false, if_false]
    split_ifs
    · exact .inr ⟨_, _, rfl, .inl rfl⟩
    · exact .inl ⟨_, rfl⟩

/-- A string is closed or at fault by its own characters. A leading surrogate waits for a trailing
one. -/
theorem readString_settled {body : List Char} (h : IsBody body) {phase : StringReader.Phase}
    (hphase : phase = .plain ∨ ∃ n, phase = .pairBackslash n) :
    (∃ s, ∀ rest, readString ⟨content, phase⟩ (body ++ '"' :: rest) = .ok (s, rest)) ∨
      ∀ rest, ∃ e, readString ⟨content, phase⟩ (body ++ '"' :: rest) = .error e := by
  induction h generalizing content phase with
  | nil =>
    rcases hphase with rfl | ⟨n, rfl⟩
    · exact .inl ⟨_, fun _ => rfl⟩
    · exact .inr fun _ => ⟨_, rfl⟩
  | char hquote hslash hcontrol _ ih =>
    rcases hphase with rfl | ⟨n, rfl⟩
    · simp only [List.cons_append, readString_char content hquote hslash hcontrol]
      exact ih _ (.inl rfl)
    · exact .inr fun rest => ⟨_, readString_fault (by simp [StringReader.step, hslash]; rfl) _⟩
  | escape hc _ ih =>
    obtain ⟨hne, e, he⟩ := StringReader.shortEscape?_of_mem hc
    rcases hphase with rfl | ⟨n, rfl⟩
    · simp only [List.cons_append, readString_escape content he]
      exact ih _ (.inl rfl)
    · have hslash (cs : List Char) : readString ⟨content, .pairBackslash n⟩ ('\\' :: cs) =
          readString ⟨content, .pairLetter n⟩ cs := rfl
      simp only [List.cons_append, hslash]
      exact .inr fun rest => ⟨_, readString_fault (by simp [StringReader.step, hne]; rfl) _⟩
  | code ha hb hc hd _ ih =>
    obtain ⟨leading, hcode⟩ : ∃ leading, ∀ rest, readString ⟨content, phase⟩ ('\\' :: 'u' :: rest) =
        readString ⟨content, .code leading 0 (some 0)⟩ rest := by
      rcases hphase with rfl | ⟨n, rfl⟩
      · exact ⟨none, readString_open content⟩
      · exact ⟨some n, readString_pair content n⟩
    obtain ⟨n, hn⟩ := StringReader.isCode_of_isHex ha hb hc hd
    simp only [List.cons_append, hcode, readString_code content hn]
    rcases resolve_settled content leading n with ⟨e, he⟩ | ⟨content', phase', hr, hphase'⟩
    · simp only [he]
      exact .inr fun _ => ⟨_, rfl⟩
    · simp only [hr]
      exact ih content' hphase'

end NewsSearch.Decode
