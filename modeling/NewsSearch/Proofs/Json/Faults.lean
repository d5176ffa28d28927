import NewsSearch.Proofs.Json.Quotation

/-!
# Where faults are

A fault at a character is at one of its bytes, and a repair may be tried. The exception is a number
out of range: its fault is at the last byte of the number, before the character at hand. At the end
of the text only a number can be at fault in a way that a repair may be tried.
-/

namespace NewsSearch.Json

def Goal.isNumber : Goal → Bool
  | .number _ => true
  | _ => false

namespace Reader

variable {rules : Rules} {st : State} {c : Char} {e : Cause}

/-! ## At a character -/

theorem category_of_begin {stack : List Frame} (h : begin rules stack c = .error e) :
    e.category = .malformed := by
  unfold begin openBracket at h
  grind [Cause.category]

theorem category_of_stepToken (h : stepToken rules st c = .error e) :
    e.category = .malformed := by
  unfold stepToken at h
  grind [Cause.category, category_of_begin]

theorem category_of_endNumber {n : NumberReader} {stack : List Frame}
    (h : endNumber rules n stack = .error e) : e.category = .malformed := by
  unfold endNumber at h
  grind [Cause.category]

theorem advance_between_error {k : Nat} (hg : st.goal.isBetween)
    (h : advance rules st c = .error (e, k)) : e.category = .malformed ∧ k = 1 := by
  rw [advance_between hg] at h
  split at h
  · cases h
  · cases hstep : stepToken rules st c with
    | error e' =>
      rw [hstep] at h
      cases h
      exact ⟨category_of_stepToken hstep, rfl⟩
    | ok st' =>
      rw [hstep] at h
      cases h

theorem advance_error {k : Nat} (hs : st.Sound) (h : advance rules st c = .error (e, k)) :
    e.category = .malformed ∧ k ≤ c.utf8Size ∧ (st.goal.isNumber = false → 1 ≤ k) := by
  have hc := c.utf8Size_pos
  obtain ⟨goal, stack⟩ := st
  cases goal with
  | keyText members r =>
    rw [advance_keyText] at h
    split at h
    · cases h
      obtain ⟨hcat, hpos, hle⟩ := StringReader.step_error hs ‹_›
      exact ⟨hcat, hle, fun _ => hpos⟩
    · cases h
    · cases h
  | text r =>
    rw [advance_text] at h
    split at h
    · cases h
      obtain ⟨hcat, hpos, hle⟩ := StringReader.step_error hs ‹_›
      exact ⟨hcat, hle, fun _ => hpos⟩
    · cases h
    · cases h
  | number n =>
    rw [advance_number] at h
    split at h
    · cases h
      exact ⟨NumberReader.category_of_step ‹_›, hc, fun hn => by cases hn⟩
    · cases h
    · split at h
      · cases h
        exact ⟨category_of_endNumber ‹_›, Nat.zero_le _, fun hn => by cases hn⟩
      · obtain ⟨v, -, rfl⟩ := endNumber_eq_ok ‹_›
        obtain ⟨hcat, rfl⟩ := advance_between_error (supply_isBetween v stack) h
        exact ⟨hcat, hc, fun hn => by cases hn⟩
  | word letters v =>
    cases letters with
    | nil => cases h
    | cons letter letters =>
      rw [advance_letter] at h
      split at h
      · cases h
        exact ⟨rfl, hc, fun _ => Nat.le_refl 1⟩
      · split at h <;> cases h
  | _ =>
    obtain ⟨hcat, rfl⟩ := advance_between_error rfl h
    exact ⟨hcat, hc, fun _ => Nat.le_refl 1⟩

/-! ## At the end of the text -/

theorem category_of_finish (hg : st.goal.isNumber = false)
    (h : finish strictRules st = .error e) : e.category = .truncated := by
  obtain ⟨goal, stack⟩ := st
  cases goal with
  | number n => cases hg
  | done v => cases h
  | _ =>
    cases h
    rfl

/-! ## In a text -/

/-- A fault is met at a character or at the end of the text, and all before that can be read. -/
theorem run_eq_error {n : Nat} {cs : List Char} {f : Fault} (h : run rules n st cs = .error f) :
    (∃ p c r s k, cs = p ++ c :: r ∧ walk rules st p = some s ∧
      advance rules s c = .error (f.cause, k) ∧ f.mark = n + byteCount p + k) ∨
    ∃ s, walk rules st cs = some s ∧ finish rules s = .error f.cause ∧
      f.mark = n + byteCount cs := by
  induction cs generalizing n st with
  | nil =>
    rw [run] at h
    split at h
    · cases h
      exact .inr ⟨st, rfl, ‹_›, rfl⟩
    · cases h
  | cons c cs ih =>
    rw [run] at h
    split at h
    · cases h
      exact .inl ⟨[], c, cs, st, _, rfl, rfl, ‹_›, rfl⟩
    · rename_i st' hadv
      have hwalk (p : List Char) : walk rules st (c :: p) = walk rules st' p := by rw [walk, hadv]
      rcases ih h with ⟨p, d, r, s, k, rfl, hs, hd, hmark⟩ | ⟨s, hs, hend, hmark⟩
      · refine .inl ⟨c :: p, d, r, s, k, rfl, (hwalk p).trans hs, hd, ?_⟩
        rw [hmark, byteCount_cons]
        omega
      · refine .inr ⟨s, (hwalk cs).trans hs, hend, ?_⟩
        rw [hmark, byteCount_cons]
        omega

/-- A fault is in the text, and after a place that is not in a number. -/
theorem run_mark {n : Nat} {cs : List Char} {f : Fault} (hs : st.Sound)
    (h : run rules n st cs = .error f) :
    n ≤ f.mark ∧ f.mark ≤ n + byteCount cs ∧
      (cs ≠ [] → st.goal.isNumber = false → n < f.mark) := by
  induction cs generalizing n st with
  | nil =>
    rw [run] at h
    split at h
    · cases h
      exact ⟨Nat.le_refl n, Nat.le_refl n, fun hne => absurd rfl hne⟩
    · cases h
  | cons c cs ih =>
    rw [byteCount_cons]
    rw [run] at h
    split at h
    · cases h
      obtain ⟨-, hle, hpos⟩ := advance_error hs ‹_›
      refine ⟨Nat.le_add_right n _, by dsimp only; omega, fun _ hg => ?_⟩
      have := hpos hg
      dsimp only
      omega
    · obtain ⟨hge, hle, -⟩ := ih ((move_of_advance ‹_›).sound hs) h
      have hc := c.utf8Size_pos
      exact ⟨by omega, by omega, fun _ _ => by omega⟩

theorem read_mark {cs : List Char} {f : Fault} (h : read cs = .error f) :
    f.mark ≤ byteCount cs := by
  rw [read_eq_run] at h
  have hs : initial.Sound := trivial
  simpa using (run_mark hs h).2.1

end Reader

end NewsSearch.Json
