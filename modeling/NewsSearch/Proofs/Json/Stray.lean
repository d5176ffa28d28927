import NewsSearch.Proofs.Json.Documents

/-!
# Stray characters

A control character is stray wherever it stands, a character above the ASCII range outside the
string literals. The reader stops at the first stray character of a text that can be read without
them, so each costs one repair and nothing else is blanked.
-/

namespace NewsSearch.Json

/-! ## What is stray -/

/-- A control character other than the tab, the line feed and the carriage return. -/
def isStrayControl (c : Char) : Bool := c.toNat < 0x20 && c != '\t' && c != '\n' && c != '\r'

def Quotation.isStray (q : Quotation) (c : Char) : Bool :=
  isStrayControl c || (0x7F < c.toNat && q == .outside)

/-- Whether every marked character is stray at its place in the blanked text, which goes on
from `q`. -/
def Marked.areStray : Quotation → Marked → Bool
  | _, [] => true
  | q, (c, marked) :: m =>
    (!marked || q.isStray c) && areStray (q.through (piece (c, marked))) m

namespace Reader

variable {rules : Rules}

/-- A character that stands for nothing in the grammar. -/
def Foreign (c : Char) : Prop := isStrayControl c ∨ 0x7F < c.toNat

theorem Foreign.ne {c d : Char} (h : Foreign c) (hd : 0x20 ≤ d.toNat ∧ d.toNat < 0x7F) :
    c ≠ d := by
  rintro rfl
  rcases h with h | h
  · simp only [isStrayControl, Bool.and_eq_true, decide_eq_true_eq] at h
    omega
  · omega

theorem Foreign.isSpace_eq {c : Char} (h : Foreign c) : isSpace c = false := by
  have hs := h.ne (d := ' ') (by decide)
  rcases h with h | h
  · simp_all [isSpace, isStrayControl]
  · unfold isSpace
    simp only [Bool.or_eq_false_iff, beq_eq_false_iff_ne, ne_eq]
    refine ⟨⟨⟨hs, ?_⟩, ?_⟩, ?_⟩ <;> (rintro rfl; revert h; decide)

theorem Foreign.isDigit_eq {c : Char} (h : Foreign c) : c.isDigit = false := by
  by_contra hd
  have hr : 48 ≤ c.toNat ∧ c.toNat ≤ 57 := by
    simpa [Char.isDigit, UInt32.le_iff_toNat_le] using hd
  exact h.ne (d := c) (by omega) rfl

/-! ## A stray character at hand -/

theorem begin_eq_error {stack : List Frame} {c : Char} (hd : c.isDigit = false)
    (hc : c ∉ ['n', 't', 'f', '"', '[', '{', '-']) :
    begin rules stack c = .error .expectedValue := by
  simp only [List.mem_cons, List.not_mem_nil, or_false, not_or] at hc
  unfold begin
  split
  case h_8 => simp [NumberReader.digit?, hd]
  all_goals simp at hc

theorem Foreign.not_mem {c : Char} (h : Foreign c) {cs : List Char}
    (hcs : cs.all fun d => 0x20 ≤ d.toNat && d.toNat < 0x7F) : c ∉ cs := by
  intro hmem
  exact h.ne (by simpa using List.all_eq_true.mp hcs c hmem) rfl

theorem stepToken_foreign (rules : Rules) {st : State} {c : Char} (hg : st.goal.isBetween)
    (h : Foreign c) : ∃ e, stepToken rules st c = .error e ∧ e.category = .malformed := by
  have hbegin (stack : List Frame) : begin rules stack c = .error .expectedValue :=
    begin_eq_error h.isDigit_eq (h.not_mem rfl)
  have hcomma := h.ne (d := ',') (by decide)
  have hbracket := h.ne (d := ']') (by decide)
  have hbrace := h.ne (d := '}') (by decide)
  have hquote := h.ne (d := '"') (by decide)
  have hcolon := h.ne (d := ':') (by decide)
  obtain ⟨goal, stack⟩ := st
  cases goal with
  | keyText _ _ | text _ | number _ | word _ _ => cases hg
  | _ =>
    simp only [stepToken, hbegin, hcomma, hbracket, hbrace, hquote, hcolon, if_false, false_and]
    exact ⟨_, rfl, rfl⟩

theorem advance_foreign {st : State} {c : Char} (hg : st.goal.isBetween) (h : Foreign c) :
    ∃ e, advance rules st c = .error (e, 1) ∧ e.category = .malformed := by
  obtain ⟨e, he, hcat⟩ := stepToken_foreign rules hg h
  refine ⟨e, ?_, hcat⟩
  rw [advance_between hg, h.isSpace_eq, he]
  rfl

end Reader

/-- Where a string takes a space, a control character is a fault. -/
theorem StringReader.step_control {strict : Bool} {r : StringReader} {c : Char} {p : Progress}
    (h : r.step strict ' ' = .ok p) (hp : ∀ r', p = .more r' → r'.Alive) (hc : isStrayControl c) :
    r.step strict c = .error (.controlCharacter, 1) := by
  cases hr : r.phase with
  | plain =>
    have hlt : c.toNat < 0x20 := by
      simp only [isStrayControl, Bool.and_eq_true, decide_eq_true_eq] at hc
      exact hc.1.1.1
    have hquote : c ≠ '"' := by rintro rfl; cases hc
    have hslash : c ≠ '\\' := by rintro rfl; cases hc
    simp [step, hr, hlt, hquote, hslash]
  | code leading taken number =>
    cases p with
    | more r' =>
      have := (step_code hr h (hp r' rfl)).1
      cases this
    | closed s =>
      have := (step_closed h).2
      cases this
  | escape | pairBackslash _ | pairLetter _ =>
    simp [step, hr, shortEscape?] at h

theorem StringReader.quotation_ne_outside (r : StringReader) : r.quotation ≠ .outside := by
  unfold quotation
  split <;> simp

namespace Reader

variable {rules : Rules}

/-- Where the reader takes a space, a stray character is a fault at its first byte. -/
theorem advance_stray {st st' : State} {c : Char} (hs : st.Sound)
    (h : advance rules st ' ' = .ok st') (ha : st'.Alive) (hc : st.quotation.isStray c) :
    ∃ e, advance rules st c = .error (e, 1) ∧ e.category = .malformed := by
  have hforeign : Foreign c := by
    simp only [Quotation.isStray, Bool.or_eq_true, Bool.and_eq_true, decide_eq_true_eq] at hc
    exact hc.imp_right And.left
  have hcontrol (hq : st.quotation ≠ .outside) : isStrayControl c := by
    simpa [Quotation.isStray, hq] using hc
  obtain ⟨goal, stack⟩ := st
  cases goal with
  | keyText _ r | text r =>
    obtain ⟨p, hp, hmore⟩ := (advance_string rfl).2 st' h
    refine ⟨_, (advance_string rfl).1 _ (StringReader.step_control hp ?_ ?_), rfl⟩
    · exact fun r' hr' => alive_of_string? (hmore r' hr') ha
    · exact hcontrol r.quotation_ne_outside
  | number n =>
    -- The number ends before the space, and so before the stray character.
    have hpart : NumberReader.isPart c = false := by
      have hne : c ∉ ['.', '+', '-', 'e', 'E'] := hforeign.not_mem rfl
      simp only [List.mem_cons, List.not_mem_nil, or_false, not_or] at hne
      simp [NumberReader.isPart, hforeign.isDigit_eq, hne]
    rw [advance_number] at h
    rw [advance_number, n.step_of_not_part hpart]
    split at h
    · cases h
    · have := NumberReader.isPart_of_step ‹_›
      cases this
    · rename_i hn
      split at h
      · cases h
      · rename_i st he
        obtain ⟨v, -, rfl⟩ := endNumber_eq_ok he
        exact advance_foreign (supply_isBetween v stack) hforeign
  | word letters v =>
    cases letters with
    | nil => exact absurd rfl hs.1
    | cons letter letters =>
      rw [advance_letter] at h
      split at h
      · cases h
      · rename_i hspace
        have hl := (Bool.and_eq_true_iff.mp hs.2.1).1
        rw [← Decidable.not_not.mp hspace] at hl
        cases hl
  | _ => exact advance_foreign rfl hforeign

/-! ## The first stray character of a text -/

/-- If a text with spaces in place of a stray character can be read, the text with the character is
at fault at its first byte, whatever comes after it. -/
theorem read_stray {p r r' : List Char} {c : Char} {v : Value}
    (h : read (p ++ (Repair.blank c ++ r')) = .ok v)
    (hc : (Quotation.through .outside p).isStray c) :
    ∃ e, read (p ++ c :: r) = .error ⟨e, byteCount p + 1⟩ ∧ e.category = .malformed := by
  rw [read_eq_run] at h
  obtain ⟨st, hst⟩ := walk_of_run_ok _ _ _ _ _ h
  rw [run_append _ _ _ _ _ hst] at h
  have hsound := walk_sound hst trivial
  have hquote := walk_quotation hst trivial (alive_of_run h)
  -- The text without the stray character has a space in its place.
  obtain ⟨w, hw⟩ := Nat.exists_eq_succ_of_ne_zero (Nat.pos_iff_ne_zero.mp c.utf8Size_pos)
  rw [Repair.blank, hw, List.replicate_succ, List.cons_append, run] at h
  split at h
  · cases h
  · rename_i st' hadv
    obtain ⟨e, he, hcat⟩ := advance_stray hsound hadv (alive_of_run h) (hquote ▸ hc)
    refine ⟨e, ?_, hcat⟩
    rw [read_eq_run, run_append _ _ _ _ _ hst, run, he, Nat.zero_add]

theorem begin_blank {stack : List Frame} {c : Char} (h : Text.isBlank c) :
    begin rules stack c = .error .expectedValue := by
  apply begin_eq_error
  · have hp : c.toNat ∈ Text.blankPoints := by simpa [Text.isBlank] using h
    by_contra hd
    have hr : 48 ≤ c.toNat ∧ c.toNat ≤ 57 := by
      simpa [Char.isDigit, UInt32.le_iff_toNat_le] using hd
    have hall : ∀ k ∈ Text.blankPoints, ¬ (48 ≤ k ∧ k ≤ 57) := by decide
    exact hall _ hp hr
  · intro hmem
    have hall : ['n', 't', 'f', '"', '[', '{', '-'].all fun d => !Text.isBlank d := rfl
    simpa [h] using List.all_eq_true.mp hall c hmem

theorem run_all_blank (n : Nat) (cs : List Char) (v : Value) (h : cs.all Text.isBlank) :
    run rules n initial cs ≠ .ok v := by
  induction cs generalizing n with
  | nil => exact fun h => by cases h
  | cons c cs ih =>
    rw [List.all_cons, Bool.and_eq_true] at h
    intro hrun
    obtain ⟨st', hadv, hrun⟩ := run_cons_eq_ok.mp hrun
    rw [advance_between rfl] at hadv
    split at hadv
    · cases hadv
      exact ih _ h.2 hrun
    · simp [initial, stepToken, begin_blank h.1] at hadv

end Reader

namespace Repair

theorem blankAt_append (p r : List Char) (c : Char) :
    blankAt (Reader.byteCount p) (p ++ c :: r) = p ++ (blank c ++ r) := by
  induction p with
  | nil => simp [blankAt, c.utf8Size_pos]
  | cons d p ih =>
    have hlt : ¬ d.utf8Size + Reader.byteCount p < d.utf8Size := by omega
    simp [blankAt, hlt, ih]

theorem attempt_readable {document : List Char} {v : Value}
    (h : Reader.read document = .ok v) : attempt document = .readable v := by
  simp [attempt, h]

/-- A fault at the first byte of a character is repaired at that character. -/
theorem attempt_fault {p r : List Char} {c : Char} {e : Cause}
    (h : Reader.read (p ++ c :: r) = .error ⟨e, Reader.byteCount p + 1⟩)
    (hcat : e.category = .malformed) (hc : c ≠ '\n') :
    ∃ err, attempt (p ++ c :: r) = .broken err (some (p ++ (blank c ++ r))) := by
  have hlt : Reader.byteCount p < (Position.bytes (p ++ c :: r)).length := by
    have := c.utf8Size_pos
    simp
    omega
  have hfirst : (Position.bytes (p ++ c :: r))[Reader.byteCount p] ≠ Position.newline := by
    intro hnl
    have hcov := covered_newline_iff (l := p) (r := r) (Nat.le_refl _)
      (Nat.lt_add_of_pos_right c.utf8Size_pos)
    rw [List.getElem?_eq_getElem hlt, hnl] at hcov
    exact hc (hcov.mp rfl)
  have hoff := Position.offset?_ofMark _ _ hlt
  rw [if_neg hfirst] at hoff
  refine ⟨⟨e, .ofMark (Position.bytes (p ++ c :: r)) (Reader.byteCount p + 1)⟩, ?_⟩
  simp only [attempt, h, hcat, hoff, Option.map_some, blankAt_append]

/-- The first repair of a text blanks its first stray character. -/
theorem attempt_stray {p r r' : List Char} {c : Char} {v : Value}
    (h : Reader.read (p ++ (blank c ++ r')) = .ok v)
    (hc : (Quotation.through .outside p).isStray c) :
    ∃ e, attempt (p ++ c :: r) = .broken e (some (p ++ (blank c ++ r))) := by
  obtain ⟨e, hread, hcat⟩ := Reader.read_stray (r := r) h hc
  refine attempt_fault hread hcat ?_
  rintro rfl
  simp [Quotation.isStray, isStrayControl] at hc

end Repair

namespace Marked

theorem areStray_plain (q : Quotation) (p : List Char) : areStray q (plain p) = true := by
  induction p generalizing q with
  | nil => rfl
  | cons c p ih => simpa [plain, areStray] using ih _

theorem areStray_append (q : Quotation) (a b : Marked) :
    areStray q (a ++ b) = (areStray q a && areStray (q.through a.blanked) b) := by
  induction a generalizing q with
  | nil => rfl
  | cons x a ih =>
    obtain ⟨c, marked⟩ := x
    simp [areStray, ih, Bool.and_assoc]

/-- A text with marks starts with a part without any and its first marked character. -/
theorem exists_first_mark {m : Marked} (h : m.marks ≠ 0) :
    ∃ p c rest, m = plain p ++ (c, true) :: rest := by
  induction m with
  | nil => exact absurd rfl h
  | cons x m ih =>
    obtain ⟨c, marked⟩ := x
    cases marked with
    | true => exact ⟨[], c, m, rfl⟩
    | false =>
      obtain ⟨p, d, rest, hm⟩ := ih (by simpa using h)
      exact ⟨c :: p, d, rest, by rw [hm]; rfl⟩

theorem eq_plain {m : Marked} (h : m.marks = 0) : m = plain m.text := by
  induction m with
  | nil => rfl
  | cons x m ih =>
    obtain ⟨c, marked⟩ := x
    cases marked with
    | true => simp at h
    | false => rw [ih (by simpa using h)]; simp [plain, text]

theorem all_blank {m : Marked} (h : m.text.all Text.isBlank) : m.blanked.all Text.isBlank := by
  induction m with
  | nil => rfl
  | cons x m ih =>
    obtain ⟨c, marked⟩ := x
    simp only [text_cons, List.all_cons, Bool.and_eq_true] at h
    simp only [blanked_cons, List.all_append, Bool.and_eq_true]
    refine ⟨?_, ih h.2⟩
    cases marked with
    | false => simpa [piece] using h.1
    | true => simp [piece, Repair.blank, show Text.isBlank ' ' = true from rfl]

end Marked

/-! ## Recovery -/

namespace Repair

/-- The first repair takes the first mark off a text whose marked characters are stray. -/
theorem repair_first_mark {m : Marked} {v : Value} (hm : m.areStray .outside)
    (hread : Reader.read m.blanked = .ok v) (hmarks : m.marks ≠ 0) :
    ∃ (e : SyntaxError) (m' : Marked), attempt m.text = .broken e (some m'.text) ∧
      m'.areStray .outside ∧ m'.blanked = m.blanked ∧ m'.marks + 1 = m.marks := by
  obtain ⟨p, c, rest, rfl⟩ := Marked.exists_first_mark hmarks
  have hblanked : Marked.blanked (Marked.plain p ++ (c, true) :: rest) =
      p ++ (blank c ++ Marked.blanked rest) := by simp [Marked.piece]
  rw [Marked.areStray_append, Marked.areStray_plain, Bool.true_and, Marked.blanked_plain] at hm
  obtain ⟨hc, hrest⟩ := Bool.and_eq_true_iff.mp hm
  rw [hblanked] at hread
  obtain ⟨e, he⟩ := attempt_stray (r := Marked.text rest) hread (by simpa using hc)
  refine ⟨e, Marked.plain (p ++ blank c) ++ rest, ?_, ?_, ?_, ?_⟩
  · simpa using he
  · rw [Marked.areStray_append, Marked.areStray_plain, Marked.blanked_plain,
      Quotation.through_append]
    exact hrest
  · simp [Marked.piece]
  · simp

theorem documents_stray (left : Nat) {m : Marked} {v : Value} (hm : m.areStray .outside)
    (hread : Reader.read m.blanked = .ok v) :
    (documents left m.text).length = min left m.marks + 1 ∧
      ∃ last, (documents left m.text).getLast? = some last ∧
        (m.marks ≤ left → last = m.blanked) ∧
        (left < m.marks → ∃ e next, attempt last = .broken e next) := by
  induction left generalizing m with
  | zero =>
    rw [documents_eq_singleton (.inl rfl)]
    refine ⟨by simp, m.text, rfl, ?_, ?_⟩
    · intro hle
      rw [Marked.eq_plain (Nat.le_zero.mp hle)]
      simp
    · intro hlt
      obtain ⟨e, m', he, -⟩ := repair_first_mark hm hread (by omega)
      exact ⟨e, _, he⟩
  | succ left ih =>
    by_cases hmarks : m.marks = 0
    · have htext : m.text = m.blanked := by
        rw [Marked.eq_plain hmarks]
        simp
      have hstop : documents (left + 1) m.text = [m.text] := by
        apply documents_eq_singleton
        right
        rw [htext, attempt_readable hread]
        simp
      rw [hstop]
      exact ⟨by simp [hmarks], m.text, rfl, fun _ => htext, fun hlt => by omega⟩
    · obtain ⟨e, m', he, hm', hblanked, hone⟩ := repair_first_mark hm hread hmarks
      obtain ⟨hlen, last, hlast, hle, hlt⟩ := ih hm' (hblanked ▸ hread)
      rw [documents_broken he]
      refine ⟨by rw [List.length_cons, hlen]; omega, last, ?_, ?_, ?_⟩
      · rw [List.getLast?_cons, hlast]
        rfl
      · intro h
        rw [hle (by omega), hblanked]
      · intro h
        exact hlt (by omega)

/-- A text with stray characters is read as the text with spaces in their place, at one repair for
each of them, and the budget is spent if there are more of them than repairs. -/
theorem parse_stray (budget : Nat) (text : String) (m : Marked) (v : Value)
    (htext : m.text = text.toList) (hm : m.areStray .outside)
    (hread : Reader.read m.blanked = .ok v) :
    (m.marks ≤ budget →
      parse budget text = .ok (entries v) ∧
      (documents budget text.toList).length = m.marks + 1 ∧
      (documents budget text.toList).getLast? = some m.blanked) ∧
    (budget < m.marks → ∃ e, parse budget text = .error (.exhausted budget e)) := by
  have hblank : Text.allBlank text = false := by
    by_contra h
    have hall := Marked.all_blank (m := m) (by rw [htext]; simpa [Text.allBlank] using h)
    rw [Reader.read_eq_run] at hread
    exact Reader.run_all_blank 0 m.blanked v hall hread
  obtain ⟨hlen, last, hlast, hle, hlt⟩ := documents_stray budget hm hread
  obtain ⟨last', hlast', hparse⟩ := parse_eq_verdict budget hblank
  rw [htext] at hlen hlast
  obtain rfl : last = last' := Option.some.inj (hlast.symm.trans hlast')
  rw [hparse, hlen, Nat.add_sub_cancel]
  constructor
  · intro h
    obtain rfl := hle h
    refine ⟨?_, by rw [Nat.min_eq_right h], hlast⟩
    simp [verdict, attempt_readable hread]
  · intro h
    obtain ⟨e, next, he⟩ := hlt h
    refine ⟨e, ?_⟩
    simp [verdict, he, Nat.min_eq_left (Nat.le_of_lt h)]

/-- One stray character in a string, one after a colon and one after a number. -/
def threeStrays : Marked :=
  .plain ['{', '"', 'a'] ++ [('\x07', true)] ++ .plain ['"', ':'] ++ [('\x01', true)] ++
    .plain ['1'] ++ [('é', true)] ++ .plain ['}']

theorem parse_threeStrays :
    threeStrays.areStray .outside ∧ threeStrays.marks = 3 ∧
      parse 3 "\x7b\"a\x07\":\x011é\x7d" = .ok [("a ", .number (.integer 1))] ∧
      ∃ e, parse 2 "\x7b\"a\x07\":\x011é\x7d" = .error (.exhausted 2 e) :=
  ⟨rfl, rfl,
    ((parse_stray 3 "\x7b\"a\x07\":\x011é\x7d" threeStrays
      (.object [("a ", .number (.integer 1))]) rfl rfl rfl).1 (by decide)).1,
    (parse_stray 2 "\x7b\"a\x07\":\x011é\x7d" threeStrays
      (.object [("a ", .number (.integer 1))]) rfl rfl rfl).2 (by decide)⟩

end Repair

end NewsSearch.Json
