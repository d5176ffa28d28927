import NewsSearch.Calendar.Timestamp
import NewsSearch.Proofs.Text.Blank
import Mathlib.Data.List.TakeWhile
import Mathlib.Tactic.SplitIfs

/-!
# Reading the parts of a date

What each taker makes of digits that some text follows, and what a layout makes of a text that
starts otherwise than it does. The layouts are tried in order, so the second is as important as the
first.
-/

namespace NewsSearch

namespace Calendar

open Text (padded digitsValue trimStart)

variable {ds rest : List Char} {c : Char} {m : Moment} {ps : Layout}

/-- Digits, at least one. -/
structure IsNumeral (ds : List Char) : Prop where
  ne_nil : ds ≠ []
  all_digits : ∀ c ∈ ds, c.isDigit

theorem isNumeral_padded (width n : Nat) : IsNumeral (padded width n) where
  ne_nil := by
    intro h
    obtain ⟨c, cs, hd, -⟩ := Text.exists_decimal_eq_cons n
    simp [padded, hd] at h
  all_digits := fun _ => Text.isDigit_of_mem_padded

theorem isNumeral_decimal (n : Nat) : IsNumeral (Text.decimal n) where
  ne_nil := Nat.toDigits_ne_nil
  all_digits := fun _ => Text.isDigit_of_mem_decimal

/-- Digits, `width` of them. -/
structure IsField (width : Nat) (ds : List Char) : Prop where
  length_eq : ds.length = width
  all_digits : ∀ c ∈ ds, c.isDigit

theorem IsField.isNumeral {width : Nat} (h : IsField width ds) (hwidth : 0 < width) :
    IsNumeral ds where
  ne_nil := List.ne_nil_of_length_pos (h.length_eq ▸ hwidth)
  all_digits := h.all_digits

theorem IsField.append {a b : Nat} {es : List Char} (hds : IsField a ds) (hes : IsField b es) :
    IsField (a + b) (ds ++ es) where
  length_eq := by rw [List.length_append, hds.length_eq, hes.length_eq]
  all_digits c hc := (List.mem_append.mp hc).elim (hds.all_digits c) (hes.all_digits c)

theorem isField_padded {width n : Nat} (hwidth : 0 < width) (h : n < Nat.pow 10 width) :
    IsField width (padded width n) where
  length_eq := Text.length_padded hwidth h
  all_digits := fun _ => Text.isDigit_of_mem_padded

theorem ofDigitChars_lt (h : ∀ c ∈ ds, c.isDigit) (n : Nat) :
    Nat.ofDigitChars 10 ds n < (n + 1) * Nat.pow 10 ds.length := by
  induction ds generalizing n with
  | nil => simp
  | cons c cs ih =>
    have hc := Text.isDigit_bounds (h c List.mem_cons_self)
    have hzero : '0'.toNat = 48 := rfl
    have htail := ih (fun d hd => h d (List.mem_cons_of_mem c hd)) (10 * n + (c.toNat - '0'.toNat))
    rw [Nat.ofDigitChars_cons, List.length_cons]
    calc _ < (10 * n + (c.toNat - '0'.toNat) + 1) * Nat.pow 10 cs.length := htail
      _ ≤ ((n + 1) * 10) * Nat.pow 10 cs.length := Nat.mul_le_mul_right _ (by omega)
      _ = (n + 1) * Nat.pow 10 (cs.length + 1) := by
        show _ = (n + 1) * (Nat.pow 10 cs.length * 10)
        rw [Nat.mul_assoc, Nat.mul_comm 10]

/-- Digits of one length are told apart by their number. -/
theorem ofDigitChars_inj {es : List Char} (hds : ∀ c ∈ ds, c.isDigit) (hes : ∀ c ∈ es, c.isDigit)
    (hlen : ds.length = es.length) {n k : Nat}
    (h : Nat.ofDigitChars 10 ds n = Nat.ofDigitChars 10 es k) : n = k ∧ ds = es := by
  induction ds generalizing es n k with
  | nil =>
    obtain rfl := List.length_eq_zero_iff.mp hlen.symm
    exact ⟨h, rfl⟩
  | cons c cs ih =>
    cases es with
    | nil => cases hlen
    | cons d es =>
      have hc := Text.isDigit_bounds (hds c List.mem_cons_self)
      have hd := Text.isDigit_bounds (hes d List.mem_cons_self)
      rw [Nat.ofDigitChars_cons, Nat.ofDigitChars_cons] at h
      obtain ⟨hvalue, rfl⟩ := ih (fun x hx => hds x (List.mem_cons_of_mem c hx))
        (fun x hx => hes x (List.mem_cons_of_mem d hx)) (Nat.succ.inj hlen) h
      have hzero : '0'.toNat = 48 := rfl
      have hchar : c.toNat = d.toNat := by omega
      exact ⟨by omega, by rw [Char.toNat_inj.mp hchar]⟩

theorem IsField.digitsValue_lt {width : Nat} (h : IsField width ds) :
    digitsValue ds < Nat.pow 10 width := by
  have hlt := ofDigitChars_lt h.all_digits 0
  rwa [Nat.zero_add, Nat.one_mul, h.length_eq] at hlt

theorem IsField.padded_digitsValue {width : Nat} (h : IsField width ds) (hwidth : 0 < width) :
    padded width (digitsValue ds) = ds := by
  have hpadded := isField_padded hwidth h.digitsValue_lt
  have hlen := hpadded.length_eq.trans h.length_eq.symm
  exact (ofDigitChars_inj hpadded.all_digits h.all_digits hlen (Text.digitsValue_padded _ _)).2

theorem IsNumeral.exists_cons (h : IsNumeral ds) : ∃ c cs, ds = c :: cs ∧ c.isDigit := by
  obtain ⟨c, cs, rfl⟩ := List.exists_cons_of_ne_nil h.ne_nil
  exact ⟨c, cs, rfl, h.all_digits c List.mem_cons_self⟩

theorem IsNumeral.isTrimmed (h : IsNumeral ds) : Text.IsTrimmed ds := by
  have hreverse : IsNumeral ds.reverse :=
    ⟨by simpa using h.ne_nil, fun c hc => h.all_digits c (List.mem_reverse.mp hc)⟩
  obtain ⟨c, cs, hcs, hc⟩ := h.exists_cons
  obtain ⟨d, ds', hds', hd⟩ := hreverse.exists_cons
  exact ⟨⟨c, cs, hcs, Text.isBlank_of_isDigit hc⟩, ⟨d, ds', hds', Text.isBlank_of_isDigit hd⟩⟩

/-! ## Numbers -/

/-- The text goes on with something else than a digit, if it goes on. -/
def Stops (rest : List Char) : Prop := ∀ c ∈ rest.head?, c.isDigit = false

theorem stops_nil : Stops [] := by
  intro c hc
  cases hc

theorem stops_cons (h : c.isDigit = false) (rest : List Char) : Stops (c :: rest) := by
  intro d hd
  obtain rfl := Option.some.inj hd
  exact h

theorem takeWhile_stops (hds : ∀ c ∈ ds, c.isDigit) (h : Stops rest) :
    (ds ++ rest).takeWhile Char.isDigit = ds := by
  rw [List.takeWhile_append_of_pos hds]
  cases rest with
  | nil => simp
  | cons c rest => simp [h c rfl]

/-- A number is as long as its digits, or as long as it may be. -/
theorem takeNumber_append {max : Nat} (h : IsNumeral ds) (hlen : ds.length ≤ max)
    (hstop : ds.length = max ∨ Stops rest) :
    takeNumber max (ds ++ rest) = some (digitsValue ds, rest) := by
  have htake : ((ds ++ rest).take max).takeWhile Char.isDigit = ds := by
    -- The cut at `max` is after the digits.
    rw [List.take_append, List.take_of_length_le hlen]
    refine takeWhile_stops h.all_digits ?_
    rcases hstop with rfl | hstop
    · rw [Nat.sub_self, List.take_zero]
      exact stops_nil
    · intro c hc
      cases hmax : max - ds.length with
      | zero =>
        rw [hmax, List.take_zero] at hc
        cases hc
      | succ k =>
        rw [hmax] at hc
        cases rest with
        | nil => cases hc
        | cons d rest => exact hstop c hc
  unfold takeNumber
  simp only [htake, List.isEmpty_iff, h.ne_nil, if_false, List.drop_left]

theorem takeNumber_cons {max : Nat} (h : c.isDigit = false) (rest : List Char) :
    takeNumber max (c :: rest) = none := by
  unfold takeNumber
  cases max <;> simp [h]

@[simp] theorem takeNumber_nil (max : Nat) : takeNumber max [] = none := by
  simp [takeNumber]

theorem trimStart_numeral (h : IsNumeral ds) (rest : List Char) :
    trimStart (ds ++ rest) = ds ++ rest := by
  obtain ⟨c, cs, rfl, hc⟩ := h.exists_cons
  exact Text.trimStart_cons (Text.isBlank_of_isDigit hc) _

/-- Two digits are taken, whatever comes after them. -/
theorem takeNumber_padded {n : Nat} (h : n < 100) (rest : List Char) :
    takeNumber 2 (trimStart (padded 2 n ++ rest)) = some (n, rest) := by
  have hlen := (isField_padded (show 0 < 2 by decide) h).length_eq
  rw [trimStart_numeral (isNumeral_padded 2 n),
    takeNumber_append (isNumeral_padded 2 n) (Nat.le_of_eq hlen) (.inl hlen),
    Text.digitsValue_padded]

theorem takeFixed_append {width : Nat} (h : IsField width ds) (rest : List Char) :
    takeFixed width (ds ++ rest) = some (digitsValue ds, rest) := by
  obtain ⟨rfl, hdigits⟩ := h
  have hall : ds.all Char.isDigit := List.all_eq_true.mpr hdigits
  unfold takeFixed
  simp [hall]

theorem takeFixed_padded {width n : Nat} (hwidth : 0 < width) (h : n < Nat.pow 10 width)
    (rest : List Char) : takeFixed width (padded width n ++ rest) = some (n, rest) := by
  rw [takeFixed_append (isField_padded hwidth h), Text.digitsValue_padded]

/-- A number of fixed width has no other characters. -/
theorem takeFixed_of_short {width : Nat} (hlen : ds.length < width) (hc : c.isDigit = false) :
    takeFixed width (ds ++ c :: rest) = none := by
  obtain ⟨k, rfl⟩ := Nat.exists_eq_add_of_lt hlen
  unfold takeFixed
  refine if_neg fun h => ?_
  have hmem : c ∈ (ds ++ c :: rest).take (ds.length + k + 1) := by
    rw [List.take_append, Nat.add_assoc, Nat.add_sub_cancel_left, List.take_succ_cons]
    simp
  have hd := List.all_eq_true.mp h.2 c hmem
  rw [hc] at hd
  cases hd

/-! ## Years -/

theorem takeYear_of_isDigit (h : c.isDigit) (cs : List Char) :
    takeYear (c :: cs) = (takeNumber 4 (c :: cs)).map fun r => ((r.1 : Int), r.2) := by
  unfold takeYear
  split
  · rename_i heq
    obtain ⟨rfl, -⟩ := List.cons.inj heq
    cases h
  · rename_i heq
    obtain ⟨rfl, -⟩ := List.cons.inj heq
    cases h
  · rfl

theorem takeYear_append (h : IsNumeral ds) (hlen : ds.length ≤ 4)
    (hstop : ds.length = 4 ∨ Stops rest) :
    takeYear (trimStart (ds ++ rest)) = some ((digitsValue ds : Int), rest) := by
  obtain ⟨c, cs, hds, hc⟩ := h.exists_cons
  rw [trimStart_numeral h]
  have htake := takeNumber_append h hlen hstop
  rw [hds, List.cons_append] at htake ⊢
  rw [takeYear_of_isDigit hc, htake]
  rfl

/-- After a sign all digits are the year's. -/
theorem takeYear_sign (h : IsNumeral ds) (hc : c = '-' ∨ c = '+') :
    ∃ year, takeYear (trimStart (c :: ds)) = some (year, []) := by
  have htake : takeNumber ds.length (ds ++ []) = some (digitsValue ds, []) :=
    takeNumber_append h (Nat.le_refl _) (.inl rfl)
  rw [List.append_nil] at htake
  rcases hc with rfl | rfl
  · exact ⟨_, by rw [Text.trimStart_cons rfl, takeYear, htake]; rfl⟩
  · exact ⟨_, by rw [Text.trimStart_cons rfl, takeYear, htake]; rfl⟩

/-- A letter is neither a digit nor a sign nor blank. -/
theorem isAlpha_ne (h : c.isAlpha) :
    c.isDigit = false ∧ c ≠ '-' ∧ c ≠ '+' ∧ Text.isBlank c = false := by
  have hr : 65 ≤ c.toNat ∧ c.toNat ≤ 122 := by
    rcases Bool.or_eq_true_iff.mp h with h | h
    · have hbounds : 'A'.val ≤ c.val ∧ c.val ≤ 'Z'.val := of_decide_eq_true h
      have hlo : 65 ≤ c.toNat := UInt32.le_iff_toNat_le.mp hbounds.1
      have hhi : c.toNat ≤ 90 := UInt32.le_iff_toNat_le.mp hbounds.2
      omega
    · have hbounds := Bool.and_eq_true_iff.mp h
      have hlo : 97 ≤ c.toNat := UInt32.le_iff_toNat_le.mp (of_decide_eq_true hbounds.1)
      have hhi : c.toNat ≤ 122 := UInt32.le_iff_toNat_le.mp (of_decide_eq_true hbounds.2)
      omega
  refine ⟨?_, ?_, ?_, ?_⟩
  · rw [Bool.eq_false_iff]
    intro hd
    have := Text.isDigit_bounds hd
    omega
  · rintro rfl
    cases h
  · rintro rfl
    cases h
  · have hall : ∀ k ∈ Text.blankPoints, ¬ (65 ≤ k ∧ k ≤ 122) := by decide
    simp only [Text.isBlank, List.contains_eq_mem, decide_eq_false_iff_not]
    exact fun hmem => hall _ hmem hr

theorem isAlpha_of_isDigit (h : c.isDigit) : c.isAlpha = false := by
  rw [Bool.eq_false_iff]
  intro halpha
  rw [(isAlpha_ne halpha).1] at h
  cases h

theorem takeYear_of_isAlpha (h : c.isAlpha) (cs : List Char) :
    takeYear (trimStart (c :: cs)) = none := by
  obtain ⟨hdigit, hminus, hplus, hblank⟩ := isAlpha_ne h
  rw [Text.trimStart_cons hblank]
  unfold takeYear
  split
  · exact absurd (List.cons.inj ‹_›).1 hminus
  · exact absurd (List.cons.inj ‹_›).1 hplus
  · rw [takeNumber_cons hdigit]
    rfl

/-! ## Names of months -/

theorem takeWord_of_not_isAlpha {word : String} (hc : c.isAlpha = false)
    (hword : word.toList.head?.any Char.isAlpha) (cs : List Char) :
    takeWord word (c :: cs) = none := by
  unfold takeWord
  refine if_neg fun h => ?_
  cases hw : word.toList with
  | nil =>
    rw [hw] at hword
    cases hword
  | cons w ws =>
    have hlen : word.length = ws.length + 1 := by rw [← String.length_toList, hw, List.length_cons]
    have hlower : c.toLower = c := by
      have hupper : c.isUpper = false := (Bool.or_eq_false_iff.mp hc).1
      exact dif_neg (of_decide_eq_false hupper)
    rw [hw, hlen, List.take_succ_cons, List.map_cons, hlower] at h
    obtain ⟨rfl, -⟩ := List.cons.inj h
    rw [hw] at hword
    simp [hc] at hword

/-- Every name of a month starts with a letter. -/
theorem takeMonthName_of_not_isAlpha (hc : c.isAlpha = false) (cs : List Char) :
    takeMonthName (c :: cs) 1 monthNames = none := by
  have hall : ∀ (names : List (String × String)) (n : Nat),
      (∀ name ∈ names, name.1.toList.head?.any Char.isAlpha) →
        takeMonthName (c :: cs) n names = none := by
    intro names
    induction names with
    | nil => exact fun n _ => rfl
    | cons name names ih =>
      intro n hnames
      obtain ⟨short, more⟩ := name
      rw [takeMonthName, takeWord_of_not_isAlpha hc (hnames _ List.mem_cons_self)]
      exact ih _ fun name hname => hnames name (List.mem_cons_of_mem _ hname)
  exact hall monthNames 1 (by decide)

/-! ## Layouts -/

def dateParts (separator : Char) : Layout :=
  [.year, .mark separator, .month, .mark separator, .day]

def minuteParts : Layout := [.hour, .mark ':', .minute]

def secondPart : Layout := [.mark ':', .second]

def dayMonthParts : Layout := [.day, .gap, .monthName, .gap, .year]

def monthDayParts : Layout := [.monthName, .gap, .day, .mark ',', .gap, .year]

theorem layouts_eq :
    layouts =
      [dateParts '-' ++ .mark 'T' :: (minuteParts ++ secondPart),
       dateParts '-' ++ .gap :: (minuteParts ++ secondPart),
       dateParts '-' ++ .mark 'T' :: (minuteParts ++ []),
       dateParts '-' ++ .gap :: (minuteParts ++ []),
       dateParts '/' ++ .gap :: (minuteParts ++ secondPart),
       dateParts '/' ++ .gap :: (minuteParts ++ []),
       dateParts '-' ++ [], dateParts '/' ++ [], dayMonthParts, monthDayParts] := rfl

theorem read_cons (p : Part) (ps : Layout) (m : Moment) (cs : List Char) :
    Layout.read (p :: ps) m cs = (p.read m cs).bind fun r => Layout.read ps r.1 r.2 := by
  rw [Layout.read]
  cases p.read m cs <;> rfl

theorem parse_of_read_none {layout : Layout} {cs : List Char}
    (h : layout.read ⟨0, 1, 1, 0, 0, 0⟩ cs = none) : layout.parse cs = none := by
  rw [Layout.parse, h]
  rfl

/-- A layout with a date in digits needs a separator after the year. -/
theorem read_year_ne {separator : Char} (h : IsNumeral ds) (hlen : ds.length ≤ 4)
    (hstop : ds.length = 4 ∨ c.isDigit = false) (hc : c ≠ separator) (rest : List Char) :
    Layout.read (dateParts separator ++ ps) m (ds ++ c :: rest) = none := by
  simp only [dateParts, List.cons_append, read_cons, Part.read,
    takeYear_append h hlen (hstop.imp_right (stops_cons · rest)), Option.map_some, Option.bind_some]
  rw [if_neg hc, Option.bind_none]

theorem read_year_sign {separator : Char} (h : IsNumeral ds) (hc : c = '-' ∨ c = '+') :
    Layout.read (dateParts separator ++ ps) m (c :: ds) = none := by
  obtain ⟨year, hyear⟩ := takeYear_sign h hc
  simp only [dateParts, List.cons_append, read_cons, Part.read, hyear, Option.map_some,
    Option.bind_some, Option.bind_none]

theorem read_year_isAlpha {separator : Char} (h : c.isAlpha) (rest : List Char) :
    Layout.read (dateParts separator ++ ps) m (c :: rest) = none := by
  simp only [dateParts, List.cons_append, read_cons, Part.read, takeYear_of_isAlpha h,
    Option.map_none, Option.bind_none]

theorem read_monthDay_ne (h : c.isAlpha = false) (rest : List Char) :
    Layout.read monthDayParts m (c :: rest) = none := by
  simp only [monthDayParts, read_cons, Part.read, takeMonthName_of_not_isAlpha h,
    Option.map_none, Option.bind_none]

theorem read_dayMonth_ne (h : c.isDigit = false) (hblank : Text.isBlank c = false)
    (rest : List Char) : Layout.read dayMonthParts m (c :: rest) = none := by
  simp only [dayMonthParts, read_cons, Part.read, Text.trimStart_cons hblank, takeNumber_cons h,
    Option.map_none, Option.bind_none]

/-- The day takes two digits, and a third is no name of a month. -/
theorem read_dayMonth_digit (h : IsNumeral ds) (hlen : ds.length = 2) (hc : c.isDigit)
    (rest : List Char) : Layout.read dayMonthParts m (ds ++ c :: rest) = none := by
  simp only [dayMonthParts, read_cons, Part.read, trimStart_numeral h,
    takeNumber_append h (Nat.le_of_eq hlen) (.inl hlen),
    Text.trimStart_cons (Text.isBlank_of_isDigit hc),
    takeMonthName_of_not_isAlpha (isAlpha_of_isDigit hc), Option.map_some, Option.map_none,
    Option.bind_some, Option.bind_none]

/-! ## Instants -/

theorem parseInstant_of_short (hlen : ds.length < 4) (hc : c.isDigit = false) (rest : List Char) :
    parseInstant (ds ++ c :: rest) = none := by
  rw [parseInstant, takeDate, takeFixed_of_short hlen hc]
  rfl

theorem parseInstant_year_ne (h : IsField 4 ds) (hc : c ≠ '-') (rest : List Char) :
    parseInstant (ds ++ c :: rest) = none := by
  have hmark : takeMark '-' (c :: rest) = none := if_neg hc
  have hdate : takeDate (ds ++ c :: rest) = none := by
    simp only [takeDate, takeFixed_append h, Option.bind_eq_bind,
      Option.bind_some, hmark, Option.bind_none]
  rw [parseInstant, hdate]
  rfl

end Calendar

end NewsSearch
