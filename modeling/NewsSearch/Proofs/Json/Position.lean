import NewsSearch.Json.Position
import Mathlib.Data.List.TakeWhile

/-!
# Lines, columns and offsets

`ofMark_leads_back` is the main statement: the offset of the position of a byte is the index of that
byte, a newline has none, and every other position leads to the byte that it names, if the text has
one. Numbers that are too large for a machine word wrap around, but no position of the reader has
any.
-/

namespace NewsSearch.Json.Position

/-- The bytes of whole lines. -/
def WholeLines (bs : List UInt8) : Prop := bs = [] ∨ ∃ front, bs = front ++ [newline]

theorem wholeLines_cons {b : UInt8} {lines : List UInt8} :
    WholeLines (b :: lines) ↔ WholeLines lines ∧ (lines = [] → b = newline) := by
  constructor
  · rintro (h | ⟨front, h⟩)
    · cases h
    · cases front with
      | nil =>
        obtain ⟨rfl, rfl⟩ := List.cons.inj h
        exact ⟨.inl rfl, fun _ => rfl⟩
      | cons c front =>
        have hlines := (List.cons.inj h).2
        exact ⟨.inr ⟨front, hlines⟩, fun hnil => by simp [hnil] at hlines⟩
  · rintro ⟨rfl | ⟨front, h⟩, hlast⟩
    · exact .inr ⟨[], by rw [hlast rfl, List.nil_append]⟩
    · exact .inr ⟨b :: front, by rw [h, List.cons_append]⟩

/-- A line starts after the lines before it. -/
theorem lineStart?_count (lines rest : List UInt8) (h : WholeLines lines) :
    lineStart? (lines.count newline) (lines ++ rest) = some lines.length := by
  induction lines with
  | nil => cases rest <;> rfl
  | cons b lines ih =>
    obtain ⟨hlines, hlast⟩ := wholeLines_cons.mp h
    have hih := ih hlines
    by_cases hb : b = newline
    · simp [hb, lineStart?, hih]
    · -- The last newline is among the bytes after `b`.
      obtain ⟨front, hfront⟩ := hlines.resolve_left (mt hlast hb)
      have hcount : lines.count newline = front.count newline + 1 := by simp [hfront]
      rw [List.count_cons_of_ne hb, List.cons_append]
      rw [hcount] at hih ⊢
      simp [lineStart?, hb, hih]

/-- Only the lines before a line are before its start. -/
theorem lineStart?_eq_some_iff {n start : Nat} {text : List UInt8} :
    lineStart? n text = some start ↔
      ∃ lines rest, text = lines ++ rest ∧ WholeLines lines ∧ lines.count newline = n ∧
        lines.length = start := by
  constructor
  · intro h
    induction text generalizing n start with
    | nil =>
      cases n with
      | zero => exact ⟨[], [], rfl, .inl rfl, rfl, Option.some.inj h⟩
      | succ n => cases h
    | cons b text ih =>
      cases n with
      | zero => exact ⟨[], b :: text, rfl, .inl rfl, rfl, Option.some.inj h⟩
      | succ n =>
        obtain ⟨before, hbefore, rfl⟩ := Option.map_eq_some_iff.mp h
        by_cases hb : b = newline
        · rw [if_pos hb] at hbefore
          obtain ⟨lines, rest, rfl, hlines, rfl, rfl⟩ := ih hbefore
          exact ⟨b :: lines, rest, rfl, wholeLines_cons.mpr ⟨hlines, fun _ => hb⟩, by simp [hb], rfl⟩
        · rw [if_neg hb] at hbefore
          obtain ⟨lines, rest, rfl, hlines, hcount, rfl⟩ := ih hbefore
          have hne : lines ≠ [] := by
            rintro rfl
            cases hcount
          exact ⟨b :: lines, rest, rfl, wholeLines_cons.mpr ⟨hlines, fun hnil => absurd hnil hne⟩,
            by rw [List.count_cons_of_ne hb, hcount], rfl⟩
  · rintro ⟨lines, rest, rfl, hlines, rfl, rfl⟩
    exact lineStart?_count lines rest hlines

/-- Bytes are whole lines and the start of one more, as long as the column says. -/
theorem split_lines (bs : List UInt8) :
    ∃ lines line, bs = lines ++ line ∧ WholeLines lines ∧ newline ∉ line ∧
      line.length = (bs.reverse.takeWhile (· != newline)).length := by
  refine ⟨(bs.reverse.dropWhile (· != newline)).reverse,
    (bs.reverse.takeWhile (· != newline)).reverse, ?_, ?_, ?_, by simp⟩
  · rw [← List.reverse_append, List.takeWhile_append_dropWhile, List.reverse_reverse]
  · cases h : bs.reverse.dropWhile (· != newline) with
    | nil => exact .inl rfl
    | cons b rest =>
      have hb := List.head?_dropWhile_not (· != newline) bs.reverse
      simp [h] at hb
      exact .inr ⟨rest.reverse, by simp [hb]⟩
  · simp only [List.mem_reverse]
    intro h
    simpa using List.mem_takeWhile_imp h

theorem ofMark_length (text : List UInt8) {mark : Nat} (h : text.length ≤ mark) :
    ofMark text mark = ofMark text text.length := by
  simp only [ofMark, List.take_of_length_le h, List.take_length]

/-- Past the end the position is that of the last byte. -/
theorem exists_ofMark_eq (text : List UInt8) (mark : Nat) :
    ∃ m, m ≤ text.length ∧ ofMark text mark = ofMark text m ∧ (mark ≤ text.length → mark = m) := by
  rcases Nat.le_total mark text.length with hle | hle
  · exact ⟨mark, hle, rfl, fun _ => rfl⟩
  · exact ⟨text.length, Nat.le_refl _, ofMark_length text hle, fun h => Nat.le_antisymm h hle⟩

/-- The line of a position starts after the lines before it, and the column counts from there. -/
theorem lineStart?_ofMark (text : List UInt8) {mark : Nat} (h : mark ≤ text.length) :
    ∃ start, lineStart? ((ofMark text mark).line - 1) text = some start ∧
      start + (ofMark text mark).column = mark := by
  obtain ⟨lines, line, hread, hlines, hline, hlen⟩ := split_lines (text.take mark)
  have hcount : (text.take mark).count newline = lines.count newline := by
    rw [hread, List.count_append, List.count_eq_zero_of_not_mem hline, Nat.add_zero]
  refine ⟨lines.length, ?_, ?_⟩
  · refine lineStart?_eq_some_iff.mpr ⟨lines, line ++ text.drop mark, ?_, hlines, ?_, rfl⟩
    · rw [← List.append_assoc, ← hread, List.take_append_drop]
    · rw [ofMark, hcount, Nat.add_sub_cancel_left]
  · have hsum := congrArg List.length hread
    rw [List.length_append, List.length_take, Nat.min_eq_left h] at hsum
    simp only [ofMark, ← hlen]
    omega

theorem column_ofMark_succ (text : List UInt8) (i : Nat) (h : i < text.length) :
    (ofMark text (i + 1)).column = 0 ↔ text[i] = newline := by
  simp only [ofMark, List.take_succ_eq_append_getElem h, List.reverse_append, List.reverse_cons,
    List.reverse_nil, List.nil_append, List.cons_append]
  by_cases hb : text[i] = newline <;> simp [hb]

/-! ## Offsets in words -/

theorem length_lt_wordSize (text : List UInt8) : text.length < wordSize text := by
  unfold wordSize
  omega

/-- The difference makes up for the sum, wherever that has wrapped around. -/
theorem subWords_addWords {size a b : Nat} (hsize : 1 ≤ size) (hb : 1 ≤ b) :
    subWords size (addWords size a b) 1 = (a + b - 1) % size := by
  have hsum : a + b + (size - 1) = a + b - 1 + size := by omega
  rw [subWords, addWords, Nat.mod_add_mod, hsum, Nat.add_mod_right]

/-- The offset is as many bytes after the start of the line as the column says, in words. -/
theorem offset?_eq_some_iff {p : Position} {text : List UInt8} {i : Nat} :
    p.offset? text = some i ↔
      1 ≤ p.line ∧ 1 ≤ p.column ∧ ∃ start, lineStart? (p.line - 1) text = some start ∧
        (start + p.column - 1) % wordSize text = i ∧ i < text.length := by
  have hsize : 1 ≤ wordSize text := Nat.one_le_of_lt (length_lt_wordSize text)
  unfold offset?
  constructor
  · intro h
    split at h
    · cases h
    · split at h
      · cases h
      · rename_i hpos _ start hstart
        have hcol : 1 ≤ p.column := by omega
        dsimp only at h
        rw [subWords_addWords hsize hcol] at h
        obtain ⟨hlt, hi⟩ := Option.ite_none_right_eq_some.mp h
        obtain rfl := Option.some.inj hi
        exact ⟨by omega, hcol, start, hstart, rfl, hlt⟩
  · rintro ⟨hline, hcol, start, hstart, rfl, hlt⟩
    have hpos : ¬ (p.line = 0 ∨ p.column = 0) := by omega
    rw [if_neg hpos]
    simp only [hstart, subWords_addWords hsize hcol, if_pos hlt]

/-- The line's start and the column add up to a word. -/
def Fits (p : Position) (text : List UInt8) : Prop :=
  ∀ start, lineStart? (p.line - 1) text = some start → start + p.column < wordSize text

theorem Fits.offset?_eq_some_iff {p : Position} {text : List UInt8} {i : Nat} (h : p.Fits text) :
    p.offset? text = some i ↔
      1 ≤ p.line ∧ 1 ≤ p.column ∧ ∃ start, lineStart? (p.line - 1) text = some start ∧
        i + 1 = start + p.column ∧ i < text.length := by
  rw [Position.offset?_eq_some_iff]
  refine and_congr_right fun _ => and_congr_right fun hcol => exists_congr fun start => ?_
  refine and_congr_right fun hstart => and_congr_left fun _ => ?_
  have hword := h start hstart
  rw [Nat.mod_eq_of_lt (by omega)]
  omega

/-- Every number on the way from a position of the reader's is a word. -/
theorem fits_ofMark (text : List UInt8) (mark : Nat) : (ofMark text mark).Fits text := by
  obtain ⟨m, hm, heq, -⟩ := exists_ofMark_eq text mark
  rw [heq]
  intro start hstart
  obtain ⟨start', hstart', hsum⟩ := lineStart?_ofMark text hm
  obtain rfl : start = start' := Option.some.inj (hstart.symm.trans hstart')
  have hlength := length_lt_wordSize text
  omega

/-- The offset of the position of a byte is the index of that byte. A newline has none. -/
theorem offset?_ofMark (text : List UInt8) (i : Nat) (h : i < text.length) :
    (ofMark text (i + 1)).offset? text = if text[i] = newline then none else some i := by
  have hcol := column_ofMark_succ text i h
  by_cases hb : text[i] = newline
  · simp [offset?, hcol.mpr hb, hb]
  · obtain ⟨start, hstart, hsum⟩ := lineStart?_ofMark text (show i + 1 ≤ text.length from h)
    have hpos : (ofMark text (i + 1)).column ≠ 0 := fun hz => hb (hcol.mp hz)
    rw [if_neg hb]
    exact (fits_ofMark text (i + 1)).offset?_eq_some_iff.mpr
      ⟨by simp [ofMark], Nat.one_le_iff_ne_zero.mpr hpos, start, hstart, hsum.symm, h⟩

/-- Only the byte at its end can be the offset of a part of the text. -/
theorem offset?_ofMark_eq_some {text : List UInt8} {mark i : Nat}
    (h : (ofMark text mark).offset? text = some i) :
    ∃ hi : i < text.length, text[i] ≠ newline ∧ (mark ≤ text.length → mark = i + 1) := by
  obtain ⟨m, hm, heq, hmark⟩ := exists_ofMark_eq text mark
  rw [heq] at h
  obtain ⟨start, hstart, hsum⟩ := lineStart?_ofMark text hm
  obtain ⟨-, -, start', hstart', hoff, hi⟩ := (fits_ofMark text m).offset?_eq_some_iff.mp h
  obtain rfl : start = start' := Option.some.inj (hstart.symm.trans hstart')
  obtain rfl : m = i + 1 := by omega
  refine ⟨hi, ?_, hmark⟩
  intro hb
  rw [offset?_ofMark text i hi, if_pos hb] at h
  cases h

/-! ## Any position -/

/-- With the largest column the sum wraps around, here to one and to zero. -/
example :
    ["a\nb", "\n"].map (fun s => offset? ⟨2, UInt64.size - 1⟩ (bytes s.toList)) = [some 0, none] := by
  decide

end NewsSearch.Json.Position
