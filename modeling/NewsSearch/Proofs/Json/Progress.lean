import NewsSearch.Proofs.Json.Stray
import NewsSearch.Proofs.Json.Truncation

/-!
# Progress of a repair

A repair that blanks a character other than a space leaves one such character less, so there cannot
be more of these repairs than such characters. At a space a repair changes nothing: the reader stops
there again, and the budget is spent on the same document. That happens only where the space cuts a
number, a word or an escape short.
-/

namespace NewsSearch.Json

/-! ## Spaces that cut a token short -/

/-- A space that comes next is at fault. A `\u` escape looks at its four bytes at the last of
them. -/
def StringReader.CutBySpace (r : StringReader) : Prop :=
  match r.phase with
  | .plain => False
  | .code _ taken _ => taken = 3
  | _ => True

/-- A space that comes next is at fault: the number may not end here, a letter of the word is
missing, or the escape is not complete. -/
def State.CutBySpace (st : State) : Prop :=
  match st.goal with
  | .number n => n.isComplete = false
  | .word _ _ => True
  | .keyText _ r | .text r => r.CutBySpace
  | _ => False

/-- The causes of a fault at a space. -/
def Cause.isCutShort (e : Cause) : Bool :=
  e == .invalidNumber || e == .expectedWord || e == .invalidEscape || e == .unfinishedSurrogatePair

theorem Cause.category_of_isCutShort {e : Cause} (h : e.isCutShort) : e.category = .malformed := by
  cases e with
  | endInList | endInObject | endInString | endInValue => cases h
  | _ => rfl

/-- A number ends only where it may. -/
theorem NumberReader.isComplete_of_step {strict : Bool} {n : NumberReader} {c : Char}
    (h : n.step strict c = .ok none) : n.isComplete := by
  unfold step addPower at h
  grind [isComplete]

theorem StringReader.step_space (strict : Bool) {r : StringReader} (hr : r.Sound) :
    (r.CutBySpace ∧ ∃ e, e.isCutShort ∧ r.step strict ' ' = .error (e, 1)) ∨
      ¬ r.CutBySpace ∧ ∃ p, r.step strict ' ' = .ok p := by
  cases hp : r.phase with
  | plain => exact .inr ⟨by simp [CutBySpace, hp], _, by simp [step, hp]; rfl⟩
  | escape =>
    exact .inl ⟨by simp [CutBySpace, hp], .invalidEscape, rfl, by simp [step, hp, shortEscape?]⟩
  | code leading taken number =>
    have hlt : taken < 4 := by simpa [Sound, hp] using hr
    have hhex : hexDigit? ' ' = none := rfl
    have hsize : ' '.utf8Size = 1 := rfl
    by_cases h3 : taken = 3
    · exact .inl ⟨by simp [CutBySpace, hp, h3], .invalidEscape, rfl,
        by simp [step, hp, h3, hhex, hsize]⟩
    · have hmore : taken + 1 < 4 := by omega
      exact .inr ⟨by simp [CutBySpace, hp, h3], _, by simp [step, hp, hmore, hsize]; rfl⟩
  | pairBackslash first | pairLetter first =>
    exact .inl ⟨by simp [CutBySpace, hp], .unfinishedSurrogatePair, rfl, by simp [step, hp]⟩

namespace Reader

variable {rules : Rules} {st : State}

theorem advance_cutBySpace (hs : st.Sound) (h : st.CutBySpace) :
    ∃ e, e.isCutShort ∧ advance rules st ' ' = .error (e, 1) := by
  obtain ⟨goal, stack⟩ := st
  cases goal with
  | number n =>
    have hn : n.isComplete = false := h
    exact ⟨.invalidNumber, rfl, by rw [advance_number, n.step_space]; simp [hn]⟩
  | word letters v =>
    cases letters with
    | nil => exact absurd rfl hs.1
    | cons letter letters =>
      have hl := (Bool.and_eq_true_iff.mp hs.2.1).1
      have hne : ' ' ≠ letter := by
        rintro rfl
        cases hl
      exact ⟨.expectedWord, rfl, by rw [advance_letter, if_pos hne]⟩
  | keyText members r | text r =>
    rcases StringReader.step_space rules.strict hs with ⟨-, e, he, hstep⟩ | ⟨hr, -⟩
    · exact ⟨e, he, (advance_string rfl).1 _ hstep⟩
    · exact absurd h hr
  | _ => exact absurd h id

/-- A fault that a space meets is at the space, or it is that of a number before it. -/
theorem cutBySpace_of_advance {e : Cause} {k : Nat} (hs : st.Sound)
    (h : advance rules st ' ' = .error (e, k)) : st.CutBySpace ∨ k = 0 := by
  obtain ⟨goal, stack⟩ := st
  cases goal with
  | number n =>
    rw [advance_number, n.step_space] at h
    cases hn : n.isComplete with
    | false => exact .inl hn
    | true =>
      simp only [hn, if_true] at h
      split at h
      · cases h
        exact .inr rfl
      · obtain ⟨v, -, rfl⟩ := endNumber_eq_ok ‹_›
        rw [advance_between (supply_isBetween v stack)] at h
        cases h
  | word letters v => exact .inl trivial
  | keyText members r =>
    rcases StringReader.step_space rules.strict hs with ⟨hr, -⟩ | ⟨-, p, hp⟩
    · exact .inl hr
    · rw [advance_keyText, hp] at h
      cases p <;> cases h
  | text r =>
    rcases StringReader.step_space rules.strict hs with ⟨hr, -⟩ | ⟨-, p, hp⟩
    · exact .inl hr
    · rw [advance_text, hp] at h
      cases p <;> cases h
  | _ =>
    rw [advance_between rfl] at h
    cases h

theorem isComplete_of_advance {n : NumberReader} {stack : List Frame} {c : Char} {e : Cause}
    (h : advance rules ⟨.number n, stack⟩ c = .error (e, 0)) : n.isComplete := by
  rw [advance_number] at h
  split at h
  · cases h
  · cases h
  · exact NumberReader.isComplete_of_step ‹_›

theorem isComplete_of_finish {n : NumberReader} {stack : List Frame} {e : Cause}
    (h : finish strictRules ⟨.number n, stack⟩ = .error e) (he : e.category = .malformed) :
    n.isComplete := by
  by_contra hn
  simp only [finish, hn, not_false_eq_true, if_true] at h
  cases h
  cases he

end Reader

namespace Repair

open Reader (byteCount)

/-! ## The character at a fault -/

/-- Only one character of a text covers a byte. -/
theorem cover_unique {l l' r r' : List Char} {c c' : Char} {i : Nat}
    (h : l ++ c :: r = l' ++ c' :: r')
    (hle : byteCount l ≤ i) (hlt : i < byteCount l + c.utf8Size)
    (hle' : byteCount l' ≤ i) (hlt' : i < byteCount l' + c'.utf8Size) : c = c' := by
  induction l generalizing l' i with
  | nil =>
    cases l' with
    | nil => exact (List.cons.inj h).1
    | cons d l' =>
      obtain rfl := (List.cons.inj h).1
      simp only [Reader.byteCount_nil, Reader.byteCount_cons] at hlt hle'
      omega
  | cons d l ih =>
    cases l' with
    | nil =>
      obtain rfl := (List.cons.inj h).1
      simp only [Reader.byteCount_nil, Reader.byteCount_cons] at hle hlt'
      omega
    | cons d' l' =>
      obtain ⟨rfl, htail⟩ := List.cons.inj h
      simp only [Reader.byteCount_cons] at hle hlt hle' hlt'
      have htop : i - d.utf8Size < byteCount l + c.utf8Size := by omega
      exact ih htail (by omega) htop (by omega) (by omega)

theorem Site.char_eq {document l r : List Char} {c : Char} {f : Fault} (site : Site document)
    (hread : Reader.read document = .error f) (hdoc : document = l ++ c :: r)
    (hlt : byteCount l < f.mark) (hle : f.mark ≤ byteCount l + c.utf8Size) : site.char = c := by
  obtain rfl := Except.error.inj (site.read_eq.symm.trans hread)
  have hmark := site.mark_eq
  exact cover_unique (site.split.symm.trans hdoc) site.before_le site.lt_after (by omega) (by omega)

/-- A text that ends in a number ends in a digit, at which a fault at its end is. -/
theorem Site.char_of_number {document p r : List Char} {n : NumberReader} {stack : List Frame}
    (site : Site document) (hdoc : document = p ++ r)
    (hwalk : Reader.walk Reader.strictRules Reader.initial p = some ⟨.number n, stack⟩)
    (hn : n.isComplete) (hmark : site.fault.mark = byteCount p) : site.char.isDigit := by
  obtain ⟨before, d, rfl, hd⟩ := Reader.walk_complete hwalk rfl hn
  have hpos := d.utf8Size_pos
  simp only [Reader.byteCount_append, Reader.byteCount_cons, Reader.byteCount_nil] at hmark
  rw [List.append_assoc, List.singleton_append] at hdoc
  rw [site.char_eq site.read_eq hdoc (by omega) (by omega)]
  exact hd

/-! ## Repairs that stand still -/

/-- The document has a space where the reader stops. -/
def Stuck (document : List Char) : Prop :=
  ∃ before after s, document = before ++ ' ' :: after ∧
    Reader.walk Reader.strictRules Reader.initial before = some s ∧ s.CutBySpace

/-- The character at a fault is a space only in a stuck document. -/
theorem Site.stuck {document : List Char} (site : Site document) (hspace : site.char = ' ') :
    Stuck document := by
  have hread := site.read_eq
  rw [Reader.read_eq_run] at hread
  rcases Reader.run_eq_error hread with ⟨p, c, r, s, k, hdoc, hwalk, hadv, hmark⟩ |
    ⟨s, hwalk, hend, hmark⟩
  · have hs := Reader.walk_sound hwalk trivial
    obtain ⟨-, hle, hpos⟩ := Reader.advance_error hs hadv
    rw [Nat.zero_add] at hmark
    cases k with
    | succ k =>
      obtain rfl := site.char_eq site.read_eq hdoc (by omega) (by omega)
      rw [hspace] at hadv hdoc
      exact ⟨p, r, s, hdoc, hwalk, (Reader.cutBySpace_of_advance hs hadv).resolve_right (by simp)⟩
    | zero =>
      -- A number before the character is out of range.
      have hnumber : s.goal.isNumber := by
        by_contra hg
        exact absurd (hpos (by simpa using hg)) (by omega)
      obtain ⟨n, stack, rfl⟩ := Reader.isNumber_eq_true hnumber
      have hd := site.char_of_number hdoc hwalk (Reader.isComplete_of_advance hadv) hmark
      rw [hspace] at hd
      cases hd
  · cases hg : s.goal.isNumber with
    | false =>
      have hcat := site.malformed
      rw [Reader.category_of_finish hg hend] at hcat
      cases hcat
    | true =>
      obtain ⟨n, stack, rfl⟩ := Reader.isNumber_eq_true hg
      have hn := Reader.isComplete_of_finish hend site.malformed
      have hd := site.char_of_number (List.append_nil document).symm hwalk hn (by simpa using hmark)
      rw [hspace] at hd
      cases hd

theorem Stuck.read {document : List Char} (h : Stuck document) :
    ∃ before after e, document = before ++ ' ' :: after ∧ e.isCutShort ∧
      Reader.read document = .error ⟨e, byteCount before + 1⟩ := by
  obtain ⟨before, after, s, rfl, hwalk, hcut⟩ := h
  obtain ⟨e, he, hadv⟩ := Reader.advance_cutBySpace (Reader.walk_sound hwalk trivial) hcut
  refine ⟨before, after, e, rfl, he, ?_⟩
  rw [Reader.read_eq_run, Reader.run_append _ _ _ _ _ hwalk, Reader.run, hadv, Nat.zero_add]

/-- The repair of a stuck document gives the same document. -/
theorem Stuck.attempt_eq {document : List Char} (h : Stuck document) :
    ∃ e : SyntaxError, attempt document = .broken e (some document) := by
  obtain ⟨before, after, e, hdoc, he, hread⟩ := h.read
  rw [hdoc] at hread ⊢
  exact attempt_fault hread (Cause.category_of_isCutShort he) (by decide)

/-- A stuck document is read as often as the budget allows. -/
theorem Stuck.documents_eq {document : List Char} (h : Stuck document) (left : Nat) :
    documents left document = List.replicate (left + 1) document := by
  obtain ⟨e, he⟩ := h.attempt_eq
  induction left with
  | zero => exact documents_eq_singleton (.inl rfl)
  | succ left ih =>
    rw [documents_broken he, ih]
    rfl

/-- The characters that are no spaces. -/
def nonSpaces (cs : List Char) : Nat := cs.countP (· != ' ')

theorem nonSpaces_blank (c : Char) : nonSpaces (blank c) = 0 := by
  simp [nonSpaces, blank, List.countP_replicate]

/-- A repair takes one such character away, or the document is stuck and stays as it is. -/
theorem Repairs.progress {a b : List Char} (h : Repairs a b) :
    (¬ Stuck a ∧ nonSpaces b + 1 = nonSpaces a) ∨ (Stuck a ∧ b = a) := by
  obtain ⟨site, rfl⟩ := h
  by_cases hspace : site.char = ' '
  · refine .inr ⟨site.stuck hspace, ?_⟩
    rw [hspace]
    exact (hspace ▸ site.split).symm
  · refine .inl ⟨fun hstuck => ?_, ?_⟩
    · obtain ⟨before, after, e, hdoc, -, hread⟩ := hstuck.read
      have hsize : ' '.utf8Size = 1 := rfl
      exact hspace (site.char_eq hread hdoc (by simp) (by simp [hsize]))
    · have hsplit := congrArg nonSpaces site.split
      have hblank := nonSpaces_blank site.char
      simp only [nonSpaces, List.countP_append, List.countP_cons] at hsplit hblank ⊢
      simp only [bne_iff_ne, ne_eq, hspace, not_false_eq_true, if_true] at hsplit
      omega

/-! ## All reads -/

/-- There are no more reads than characters that are no spaces, and one, up to the first stuck
document. -/
theorem documents_length_or_stuck (left : Nat) (document : List Char) :
    (documents left document).length ≤ nonSpaces document + 1 ∨
      ∃ d stuck, d ≤ nonSpaces document ∧ (documents left document)[d]? = some stuck ∧
        Stuck stuck := by
  induction left, document using documents_induction with
  | stop left document h => exact .inl (by simp [documents_eq_singleton h])
  | repair left document e next h ih =>
    rw [documents_broken h]
    rcases (repairs_of_attempt h).progress with ⟨-, hless⟩ | ⟨hstuck, -⟩
    · rcases ih with hlen | ⟨d, stuck, hd, hget, hstuck⟩
      · exact .inl (by rw [List.length_cons]; omega)
      · exact .inr ⟨d + 1, stuck, by omega, by simpa using hget, hstuck⟩
    · exact .inr ⟨0, document, Nat.zero_le _, rfl, hstuck⟩

/-- From each document on, the repair goes on as if it had started there. -/
theorem documents_drop {left d : Nat} {text document : List Char}
    (h : (documents left text)[d]? = some document) :
    d ≤ left ∧ (documents left text).drop d = documents (left - d) document := by
  induction left, text using documents_induction generalizing d with
  | stop left text hstop =>
    rw [documents_eq_singleton hstop] at h ⊢
    obtain rfl : d = 0 := by
      by_contra hd
      simp [List.getElem?_eq_none, Nat.one_le_iff_ne_zero.mpr hd] at h
    obtain rfl : text = document := by simpa using h
    exact ⟨Nat.zero_le _, (documents_eq_singleton hstop).symm⟩
  | repair left text e next hb ih =>
    cases d with
    | zero =>
      obtain rfl : text = document := by simpa [documents_head] using h
      exact ⟨Nat.zero_le _, rfl⟩
    | succ d =>
      rw [documents_broken hb] at h ⊢
      obtain ⟨hle, hdrop⟩ := ih (by simpa using h)
      exact ⟨by omega, by rw [List.drop_succ_cons, hdrop, Nat.succ_sub_succ]⟩

/-- Once a document is stuck, it is read until the budget is spent. -/
theorem documents_of_stuck {budget d : Nat} {text : String} {document : List Char}
    (h : (documents budget text.toList)[d]? = some document) (hstuck : Stuck document) :
    (documents budget text.toList).length = budget + 1 ∧
      (∀ i, d ≤ i → i ≤ budget → (documents budget text.toList)[i]? = some document) ∧
      (Text.allBlank text = false → ∃ e, parse budget text = .error (.exhausted budget e)) := by
  obtain ⟨hle, hdrop⟩ := documents_drop h
  rw [hstuck.documents_eq] at hdrop
  have hlt := (List.getElem?_eq_some_iff.mp h).1
  have hlen : (documents budget text.toList).length = budget + 1 := by
    have hcount := congrArg List.length hdrop
    rw [List.length_drop, List.length_replicate] at hcount
    omega
  have hget : ∀ i, d ≤ i → i ≤ budget → (documents budget text.toList)[i]? = some document := by
    intro i hdi hi
    have hi' := congrArg (·[i - d]?) hdrop
    simp only [List.getElem?_drop, Nat.add_sub_cancel' hdi] at hi'
    rw [hi', List.getElem?_replicate, if_pos (by omega)]
  refine ⟨hlen, hget, fun hblank => ?_⟩
  obtain ⟨last, hlast, hparse⟩ := parse_eq_verdict budget hblank
  obtain ⟨e, he⟩ := hstuck.attempt_eq
  rw [List.getLast?_eq_getElem?, hlen, Nat.add_sub_cancel, hget budget hle (Nat.le_refl _)] at hlast
  obtain rfl := Option.some.inj hlast
  exact ⟨e, by rw [hparse, hlen, Nat.add_sub_cancel, verdict, he]; simp⟩

/-- Each repair leaves one character less that is no space, so there are at most as many reads as
such characters, and one. The exception is a document that has a space where it cuts a token short:
the repair leaves it as it is, and it is read again and again until the budget is spent. -/
theorem documents_progress (budget : Nat) (text : String) :
    (∀ d document next, (documents budget text.toList)[d]? = some document →
      (documents budget text.toList)[d + 1]? = some next →
      (¬ Stuck document ∧ nonSpaces next + 1 = nonSpaces document) ∨
        (Stuck document ∧ next = document)) ∧
    ((documents budget text.toList).length ≤ nonSpaces text.toList + 1 ∨
      ∃ d document, d ≤ nonSpaces text.toList ∧ (documents budget text.toList)[d]? = some document ∧
        Stuck document) ∧
    ∀ d document, (documents budget text.toList)[d]? = some document → Stuck document →
      (documents budget text.toList).length = budget + 1 ∧
      (∀ i, d ≤ i → i ≤ budget → (documents budget text.toList)[i]? = some document) ∧
      (Text.allBlank text = false → ∃ e, parse budget text = .error (.exhausted budget e)) :=
  ⟨fun _ _ _ hd hnext => (documents_repairs hd hnext).progress,
    documents_length_or_stuck budget text.toList,
    fun _ _ hd hstuck => documents_of_stuck hd hstuck⟩

/-- An exponent without digits, cut short by a space. -/
theorem reads_of_cut_exponent :
    (documents 100 "\x7b\"a\":1e \x7d".toList).length = 101 ∧
      nonSpaces "\x7b\"a\":1e \x7d".toList = 8 := by
  have hstuck : Stuck "\x7b\"a\":1e \x7d".toList :=
    ⟨['{', '"', 'a', '"', ':', '1', 'e'], ['}'], _, rfl, rfl, rfl⟩
  exact ⟨by rw [hstuck.documents_eq, List.length_replicate], rfl⟩

end Repair

end NewsSearch.Json
