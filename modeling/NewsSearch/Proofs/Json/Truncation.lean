import NewsSearch.Proofs.Json.Brackets
import NewsSearch.Proofs.Json.Documents

/-!
# Truncated texts

A text whose closing brace is cut off ends too early, and no repair can make up for it. The end of a
number may be a fault that is repaired, if the rest of the number was to bring it into range. Such
repairs blank the number from its end and close nothing.
-/

namespace NewsSearch.Json

namespace Reader

variable {rules : Rules} {st : State} {c : Char}

/-! ## In a number -/

theorem supply_valueStack? (v : Value) (stack : List Frame) :
    (supply v stack).valueStack? = none := by
  unfold supply
  split <;> rfl

theorem isNumber_eq_true (h : st.goal.isNumber) : ∃ n stack, st = ⟨.number n, stack⟩ := by
  obtain ⟨goal, stack⟩ := st
  cases goal with
  | number n => exact ⟨n, stack, rfl⟩
  | _ => cases h

theorem isNumber_of_valueStack? {stack : List Frame} (h : st.valueStack? = some stack) :
    st.goal.isNumber = false := by
  unfold State.valueStack? at h
  split at h <;> first | rfl | cases h

theorem supply_ne_number (v : Value) (rest stack : List Frame) (n : NumberReader) :
    supply v rest ≠ ⟨.number n, stack⟩ := by
  intro h
  have hg := supply_isBetween v rest
  rw [h] at hg
  cases hg

theorem Move.to_number {n : NumberReader} {stack : List Frame}
    (h : Move rules st c ⟨.number n, stack⟩) :
    (st.valueStack? = some stack ∧ (c = '-' ∧ n = .minus ∨ c.isDigit)) ∨
      ∃ m : NumberReader, st = ⟨.number m, stack⟩ ∧ m.step rules.strict c = .ok (some n) := by
  generalize hst' : (⟨.number n, stack⟩ : State) = st' at h
  induction h with
  | blank hg =>
    rw [← hst'] at hg
    cases hg
  | start hst hstart =>
    subst hst'
    cases hstart with
    | minus => exact .inl ⟨hst, .inl ⟨rfl, rfl⟩⟩
    | digit hd => exact .inl ⟨hst, .inr (NumberReader.isDigit_of_digit? hd)⟩
  | inNumber hn =>
    cases hst'
    exact .inr ⟨_, rfl, hn⟩
  | endNumber _ hn _ ih =>
    obtain ⟨v, -, rfl⟩ := endNumber_eq_ok hn
    rcases ih hst' with ⟨hv, -⟩ | ⟨m, hm, -⟩
    · rw [supply_valueStack?] at hv
      cases hv
    · exact absurd hm (supply_ne_number _ _ _ _)
  | emptyList | endList | emptyObject | endObject | endString | lastLetter | noLetter =>
    exact absurd hst'.symm (supply_ne_number _ _ _ _)
  | _ => cases hst'

/-- A text that ends in a number goes on from a place where a value may begin. -/
theorem walk_number {p : List Char} {n : NumberReader} {stack : List Frame}
    (h : walk rules st p = some ⟨.number n, stack⟩) (hst : st.goal.isNumber = false) :
    ∃ before digits s, p = before ++ digits ∧ walk rules st before = some s ∧
      s.valueStack? = some stack ∧ ∀ c ∈ digits, NumberReader.isPart c := by
  induction p using List.reverseRecOn generalizing n with
  | nil =>
    cases h
    cases hst
  | append_singleton p c ih =>
    obtain ⟨s, hp, hc⟩ := (walk_snoc _ _ _ _).mp h
    rcases (move_of_advance hc).to_number with ⟨hs, hfirst⟩ | ⟨m, rfl, hm⟩
    · refine ⟨p, [c], s, rfl, hp, hs, ?_⟩
      intro d hd
      obtain rfl := List.mem_singleton.mp hd
      rcases hfirst with ⟨rfl, -⟩ | hd
      · rfl
      · simp [NumberReader.isPart, hd]
    · obtain ⟨before, digits, s, rfl, hs, hstack, hparts⟩ := ih hp
      refine ⟨before, digits ++ [c], s, by simp, hs, hstack, ?_⟩
      intro d hd
      rcases List.mem_append.mp hd with hd | hd
      · exact hparts d hd
      · obtain rfl := List.mem_singleton.mp hd
        exact NumberReader.isPart_of_step hm

/-- A number that may end here ends in a digit. -/
theorem walk_complete {p : List Char} {n : NumberReader} {stack : List Frame}
    (h : walk rules st p = some ⟨.number n, stack⟩) (hst : st.goal.isNumber = false)
    (hn : n.isComplete) : ∃ before c, p = before ++ [c] ∧ c.isDigit := by
  cases p using List.reverseRecOn with
  | nil =>
    cases h
    cases hst
  | append_singleton p c =>
    refine ⟨p, c, rfl, ?_⟩
    obtain ⟨s, -, hc⟩ := (walk_snoc _ _ _ _).mp h
    rcases (move_of_advance hc).to_number with ⟨-, ⟨-, rfl⟩ | hd⟩ | ⟨m, -, hm⟩
    · cases hn
    · exact hd
    · cases hd : NumberReader.digit? c with
      | some d => exact NumberReader.isDigit_of_digit? hd
      | none => simp [(NumberReader.step_not_digit hd hm).1] at hn

theorem run_number {k : Nat} {n : NumberReader} {cs : List Char} {v : Value}
    (h : run rules k ⟨.number n, []⟩ cs = .ok v) : v = .null ∨ ∃ x, v = .number x := by
  induction cs generalizing k n with
  | nil =>
    rcases finish_eq_ok (run_nil_eq_ok.mp h) with ⟨stack, hst⟩ | ⟨m, -, hv⟩
    · cases hst
    · exact hv
  | cons c cs ih =>
    obtain ⟨st, hadv, hrun⟩ := run_cons_eq_ok.mp h
    cases move_of_advance hadv with
    | blank hg => cases hg
    | start hst => cases hst
    | inNumber => exact ih hrun
    | endNumber _ hn hm =>
      obtain ⟨w, hw, rfl⟩ := endNumber_eq_ok hn
      obtain rfl := hm.of_done rfl
      obtain ⟨rfl, -⟩ := run_done_eq_ok hrun
      exact hw

end Reader

/-- Whether the last character of a text is part of a number. -/
def endsInNumber (cs : List Char) : Bool :=
  Quotation.through .outside cs == .outside &&
    match cs.reverse with
    | [] => false
    | c :: before =>
      c.isDigit || c == '-' || c == '+' || c == '.' ||
        ((c == 'e' || c == 'E') && before.head?.any Char.isDigit)

theorem endsInNumber_snoc (before : List Char) (c : Char) :
    endsInNumber (before ++ [c]) =
      (Quotation.through .outside (before ++ [c]) == .outside &&
        (c.isDigit || c == '-' || c == '+' || c == '.' ||
          ((c == 'e' || c == 'E') && before.getLast?.any Char.isDigit))) := by
  simp [endsInNumber]

/-- The reader is in a number only after a part of one. -/
theorem endsInNumber_of_walk {cs : List Char} {n : NumberReader} {stack : List Frame}
    (h : Reader.walk Reader.strictRules Reader.initial cs = some ⟨.number n, stack⟩) :
    endsInNumber cs := by
  have hquote : Quotation.through .outside cs = .outside :=
    (Reader.walk_quotation h trivial trivial).symm
  cases cs using List.reverseRecOn with
  | nil => cases h
  | append_singleton before c =>
    rw [endsInNumber_snoc, hquote]
    obtain ⟨s, hs, hc⟩ := (Reader.walk_snoc _ _ _ _).mp h
    rcases (Reader.move_of_advance hc).to_number with ⟨-, ⟨rfl, -⟩ | hd⟩ | ⟨m, rfl, hm⟩
    · rfl
    · simp [hd]
    · cases hd : NumberReader.digit? c with
      | some d => simp [NumberReader.isDigit_of_digit? hd]
      | none =>
        obtain ⟨-, rfl | rfl | rfl | ⟨he, hcomplete⟩⟩ := NumberReader.step_not_digit hd hm
        · rfl
        · rfl
        · rfl
        · obtain ⟨before, d, rfl, hd⟩ := Reader.walk_complete hs rfl hcomplete
          simp [he, hd]

namespace Repair

open Reader (byteCount)

/-! ## Cut off in a number -/

/-- A text that is cut off in a number, where some brackets stand open. Spaces may stand for
characters of the number. -/
def CutInNumber (document : List Char) : Prop :=
  ∃ before digits s, document = before ++ digits ∧
    Reader.walk Reader.strictRules Reader.initial before = some s ∧
    0 < s.depth ∧ s.goal.isNumber = false ∧ ∀ c ∈ digits, NumberReader.isPart c ∨ c = ' '

theorem CutInNumber.of_walk {document : List Char} {n : NumberReader} {stack : List Frame}
    (h : Reader.walk Reader.strictRules Reader.initial document = some ⟨.number n, stack⟩)
    (hstack : stack ≠ []) : CutInNumber document := by
  obtain ⟨before, digits, s, hdoc, hs, hvalue, hparts⟩ := Reader.walk_number h rfl
  refine ⟨before, digits, s, hdoc, hs, ?_, Reader.isNumber_of_valueStack? hvalue, ?_⟩
  · rw [Reader.depth_of_valueStack? hvalue]
    exact List.length_pos_iff.mpr hstack
  · exact fun c hc => .inl (hparts c hc)

theorem CutInNumber.read_ne {document : List Char} (h : CutInNumber document) (v : Value) :
    Reader.read document ≠ .ok v := by
  obtain ⟨before, digits, s, rfl, hs, hopen, -, hparts⟩ := h
  rw [Reader.read_eq_run, Reader.run_append _ _ _ _ _ hs]
  refine Reader.run_of_open hopen ?_ v
  intro c hc
  constructor <;> (rintro rfl; rcases hparts _ hc with h | h <;> cases h)

/-- A repair blanks a character of the number. -/
theorem CutInNumber.repairs {document next : List Char} (h : CutInNumber document)
    (hr : Repairs document next) : CutInNumber next := by
  obtain ⟨before, digits, s, rfl, hs, hopen, hg, hparts⟩ := h
  obtain ⟨site, rfl⟩ := hr
  have hread := site.read_eq
  rw [Reader.read_eq_run, Reader.run_append _ _ _ _ _ hs] at hread
  have hsound := Reader.walk_sound hs trivial
  have hne : digits ≠ [] := by
    rintro rfl
    rw [Reader.run] at hread
    split at hread
    · have hcat := site.malformed
      rw [← Except.error.inj hread] at hcat
      simp [Reader.category_of_finish hg ‹_›] at hcat
    · cases hread
  -- The fault is after `before`, and so is the character that covers it.
  have hlt := (Reader.run_mark hsound hread).2.2 hne hg
  rw [site.mark_eq] at hlt
  have hcover := site.lt_after
  rcases Marked.append_eq_append_cons site.split with ⟨l, hbefore, -⟩ | ⟨l, hbefore, hdigits⟩
  · have hcount := congrArg byteCount hbefore
    simp only [Reader.byteCount_append, Reader.byteCount_cons] at hcount
    omega
  · refine ⟨before, l ++ (blank site.char ++ site.after), s, by simp [hbefore], hs, hopen, hg, ?_⟩
    intro d hd
    rw [hdigits] at hparts
    simp only [List.mem_append] at hd
    rcases hd with hd | hd | hd
    · exact hparts d (by simp [hd])
    · exact .inr (List.mem_replicate.mp hd).2
    · exact hparts d (by simp [hd])

theorem CutInNumber.parse_error {text : String} (h : CutInNumber text.toList)
    (budget : Nat) (hblank : Text.allBlank text = false) : ∃ e, parse budget text = .error e := by
  obtain ⟨last, hlast, hparse⟩ := parse_eq_verdict budget hblank
  cases hv : parse budget text with
  | error e => exact ⟨e, rfl⟩
  | ok members =>
    obtain ⟨v, hread, -⟩ := verdict_eq_ok (hparse.symm.trans hv)
    rw [List.getLast?_eq_getElem?] at hlast
    have hlast : CutInNumber last :=
      documents_invariant (motive := fun _ => CutInNumber) hlast h fun _ _ _ => CutInNumber.repairs
    exact absurd hread (hlast.read_ne v)

/-! ## Cut off anywhere -/

/-- A text that ends too early is read once. -/
theorem parse_of_finish {text : String} {st : State} {c : Cause} (budget : Nat)
    (hblank : Text.allBlank text = false)
    (hwalk : Reader.walk Reader.strictRules Reader.initial text.toList = some st)
    (hg : st.goal.isNumber = false) (hend : Reader.finish Reader.strictRules st = .error c) :
    (∃ e, e.cause.category = .truncated ∧ parse budget text = .error (.unrecoverable e)) ∧
      documents budget text.toList = [text.toList] := by
  have hcat := Reader.category_of_finish hg hend
  have hread : Reader.read text.toList = .error ⟨c, byteCount text.toList⟩ := by
    have hrun := Reader.run_append 0 _ _ _ [] hwalk
    rw [List.append_nil, Nat.zero_add, Reader.run, hend] at hrun
    rw [Reader.read_eq_run, hrun]
  obtain ⟨e, he, hattempt⟩ : ∃ e : SyntaxError, e.cause = c ∧
      attempt text.toList = .hopeless e := by
    refine ⟨⟨c, .ofMark (Position.bytes text.toList) (byteCount text.toList)⟩, rfl, ?_⟩
    simp only [attempt, hread, hcat]
  have hdocuments : documents budget text.toList = [text.toList] :=
    documents_eq_singleton (.inr fun e next hb => by simp [hattempt] at hb)
  refine ⟨⟨e, he ▸ hcat, ?_⟩, hdocuments⟩
  obtain ⟨last, hlast, hparse⟩ := parse_eq_verdict budget hblank
  rw [hdocuments] at hlast hparse
  obtain rfl : text.toList = last := by simpa using hlast
  rw [hparse, verdict, hattempt]
  simp

/-- A text that holds an object is an error once it is cut off before the closing brace, which is
its last brace. It then ends too early and no repair is made, unless it ends in a number. -/
theorem parse_truncated (budget : Nat) (kept cut : String) (members : Members)
    (hread : Reader.read (kept ++ cut).toList = .ok (.object members))
    (hcut : '}' ∈ cut.toList) (hblank : Text.allBlank kept = false) :
    (∃ e, parse budget kept = .error e) ∧
    (endsInNumber kept.toList = false →
      (∃ e, e.cause.category = .truncated ∧ parse budget kept = .error (.unrecoverable e)) ∧
        documents budget kept.toList = [kept.toList]) := by
  rw [String.toList_append, Reader.read_eq_run] at hread
  obtain ⟨st, hwalk⟩ := Reader.walk_of_run_ok _ _ _ _ _ hread
  rw [Reader.run_append _ _ _ _ _ hwalk] at hread
  -- Only in a number may the end of the text be a fault that a repair is tried on.
  cases hg : st.goal.isNumber with
  | true =>
    obtain ⟨n, stack, rfl⟩ := Reader.isNumber_eq_true hg
    have hstack : stack ≠ [] := by
      rintro rfl
      rcases Reader.run_number hread with h | ⟨x, h⟩ <;> cases h
    have hends := endsInNumber_of_walk hwalk
    exact ⟨(CutInNumber.of_walk hwalk hstack).parse_error budget hblank,
      fun h => by simp [hends] at h⟩
  | false =>
    cases hend : Reader.finish Reader.strictRules st with
    | error c =>
      have h := parse_of_finish budget hblank hwalk hg hend
      obtain ⟨e, -, he⟩ := h.1
      exact ⟨⟨_, he⟩, fun _ => h⟩
    | ok v =>
      -- The value is complete, so the brace would be a blank.
      rcases Reader.finish_eq_ok hend with ⟨stack, rfl⟩ | ⟨n, rfl, -⟩
      · cases (Reader.run_done_eq_ok hread).2 _ hcut
      · cases hg

/-- Cut off in an escape. -/
theorem parse_truncated_escape :
    ∃ e, e.cause.category = .truncated ∧
      parse 5 "\x7b\"a\": [1, \"\\u00" = .error (.unrecoverable e) :=
  ((parse_truncated 5 "\x7b\"a\": [1, \"\\u00" "e9\"]\x7d"
    [("a", .array [.number (.integer 1), .string "é"])] rfl (by decide) rfl).2 rfl).1

end Repair

end NewsSearch.Json
