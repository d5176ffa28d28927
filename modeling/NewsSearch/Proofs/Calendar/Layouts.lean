import NewsSearch.Proofs.Calendar.Timestamp
import Mathlib.Tactic.IntervalCases

/-!
# The layouts agree

A moment can be written in many ways. The layouts are tried in a fixed order, and for each way of
writing the ones before its own read nothing, so all of them give the same timestamp. An instant is
moved to universal time, and a date in digits with dashes is taken whether or not there is such a
day.
-/

namespace NewsSearch

open Text (padded digitsValue trimStart)

/-! ## Written moments -/

namespace Moment

def dateText (separator : Char) (m : Moment) : List Char :=
  padded 4 m.year.natAbs ++ separator :: (padded 2 m.month ++ separator :: padded 2 m.day)

def minuteText (m : Moment) : List Char := padded 2 m.hour ++ ':' :: padded 2 m.minute

def secondText (m : Moment) : List Char := m.minuteText ++ ':' :: padded 2 m.second

def monthTitles : List String :=
  ["January", "February", "March", "April", "May", "June", "July", "August", "September",
   "October", "November", "December"]

def monthTitle (month : Nat) : List Char := (monthTitles.getD (month - 1) "").toList

/-- The day of the month, which needs no zero in front. -/
def WritesDay (m : Moment) (ds : List Char) : Prop :=
  ds = Text.decimal m.day ∨ ds = padded 2 m.day

def IsMidnight (m : Moment) : Prop := m.hour = 0 ∧ m.minute = 0 ∧ m.second = 0

/-- The ways to write a moment. -/
inductive Writes (m : Moment) : List Char → Prop
  | dashedT : Writes m (dateText '-' m ++ 'T' :: m.secondText)
  | dashed : Writes m (dateText '-' m ++ ' ' :: m.secondText)
  | slashed : Writes m (dateText '/' m ++ ' ' :: m.secondText)
  | universal : Writes m (dateText '-' m ++ 'T' :: (m.secondText ++ ['Z']))
  | dashedTMinute (h : m.second = 0) : Writes m (dateText '-' m ++ 'T' :: m.minuteText)
  | dashedMinute (h : m.second = 0) : Writes m (dateText '-' m ++ ' ' :: m.minuteText)
  | slashedMinute (h : m.second = 0) : Writes m (dateText '/' m ++ ' ' :: m.minuteText)
  | dashedDate (h : m.IsMidnight) : Writes m (dateText '-' m)
  | slashedDate (h : m.IsMidnight) : Writes m (dateText '/' m)
  | dayMonth (h : m.IsMidnight) {day : List Char} (hday : m.WritesDay day) :
      Writes m (day ++ ' ' :: (monthTitle m.month ++ ' ' :: padded 4 m.year.natAbs))
  | monthDay (h : m.IsMidnight) {day : List Char} (hday : m.WritesDay day) :
      Writes m (monthTitle m.month ++ ' ' :: (day ++ ',' :: ' ' :: padded 4 m.year.natAbs))

/-- An offset from universal time of some minutes, less than a day. -/
inductive WritesOffset : Int → List Char → Prop
  | zero {c : Char} (h : c = 'Z' ∨ c = 'z') : WritesOffset 0 [c]
  | ahead {hours minutes : Nat} (hhours : hours ≤ 23) (hminutes : minutes ≤ 59) :
      WritesOffset (hours * 60 + minutes) ('+' :: (padded 2 hours ++ ':' :: padded 2 minutes))
  | behind {hours minutes : Nat} (hhours : hours ≤ 23) (hminutes : minutes ≤ 59) :
      WritesOffset (-(hours * 60 + minutes)) ('-' :: (padded 2 hours ++ ':' :: padded 2 minutes))

/-- One of the marks between date and time. -/
def IsMark (c : Char) : Prop := c = 'T' ∨ c = 't' ∨ c = ' '

/-- A moment of a place that is some minutes ahead of universal time, by RFC 3339. -/
inductive WritesInstant (m : Moment) (offset : Int) : List Char → Prop
  | mk {mark : Char} {decimals zone : List Char} (hmark : IsMark mark)
      (hdecimals : decimals = [] ∨ ∃ ds, Calendar.IsNumeral ds ∧ decimals = '.' :: ds)
      (hzone : WritesOffset offset zone) :
      WritesInstant m offset (dateText '-' m ++ mark :: (m.secondText ++ (decimals ++ zone)))

/-- The same instant in universal time. -/
structure IsUniversal (u m : Moment) (offset : Int) : Prop where
  civil : u.IsCivil
  minuteNumber : u.minuteNumber = m.minuteNumber - offset
  second : u.second = m.second

variable {m : Moment}

theorem WritesInstant.offset_bounds {offset : Int} {text : List Char}
    (h : m.WritesInstant offset text) : -1440 < offset ∧ offset < 1440 := by
  obtain ⟨-, -, hzone⟩ := h
  cases hzone <;> omega

theorem isValid_of_isCivil (h : m.IsCivil) (hyear : m.HasFourDigitYear) : m.isValid := by
  obtain ⟨hlo, hhi⟩ := hyear
  exact isValid_iff.mpr ⟨by unfold minYear; omega, by unfold maxYear; omega, h⟩

theorem HasFourDigitYear.natAbs_eq (h : m.HasFourDigitYear) : (m.year.natAbs : Int) = m.year :=
  Int.natAbs_of_nonneg h.1

theorem eq_of_second (h : m.second = 0) : ⟨m.year, m.month, m.day, m.hour, m.minute, 0⟩ = m := by
  rw [← h]

theorem IsMidnight.eq (h : m.IsMidnight) : ⟨m.year, m.month, m.day, 0, 0, 0⟩ = m := by
  obtain ⟨hhour, hminute, hsecond⟩ := h
  cases m
  simp_all

theorem monthTitle_eq_cons {month : Nat} (hlo : 1 ≤ month) (hhi : month ≤ 12) :
    ∃ c cs, monthTitle month = c :: cs ∧ c.isAlpha := by
  interval_cases month <;> exact ⟨_, _, rfl, rfl⟩

theorem WritesDay.spec {ds : List Char} (h : m.WritesDay ds) (hday : m.day < 100) :
    Calendar.IsNumeral ds ∧ ds.length ≤ 2 ∧ digitsValue ds = m.day := by
  rcases h with rfl | rfl
  · exact ⟨Calendar.isNumeral_decimal _,
      (Nat.length_toDigits_le_iff (by decide) (by decide)).mpr hday, Text.digitsValue_decimal _⟩
  · exact ⟨Calendar.isNumeral_padded 2 _, Nat.le_of_eq (Text.length_padded (by decide) hday),
      Text.digitsValue_padded 2 _⟩

end Moment

namespace Calendar

open Moment

variable {m n : Moment} {ps : Layout} {rest : List Char} {separator : Char}

theorem startsInked_padded (width n : Nat) : Text.StartsInked (padded width n) :=
  (isNumeral_padded width n).isTrimmed.1

theorem endsInked_padded (width n : Nat) : Text.StartsInked (padded width n).reverse :=
  (isNumeral_padded width n).isTrimmed.2

theorem isTrimmed_dateText (separator : Char) (m : Moment) :
    Text.IsTrimmed (dateText separator m) := by
  have h := Text.isTrimmed_append (startsInked_padded 4 m.year.natAbs) (endsInked_padded 2 m.day)
    (separator :: (padded 2 m.month ++ [separator]))
  simpa [dateText] using h

theorem isTrimmed_minuteText (m : Moment) : Text.IsTrimmed m.minuteText :=
  Text.isTrimmed_append (startsInked_padded 2 m.hour) (endsInked_padded 2 m.minute) [':']

theorem isTrimmed_secondText (m : Moment) : Text.IsTrimmed m.secondText :=
  Text.isTrimmed_append (isTrimmed_minuteText m).1 (endsInked_padded 2 m.second) [':']

/-! ## Reading what is written -/

theorem takeYear_padded (h : m.HasFourDigitYear) (rest : List Char) :
    takeYear (trimStart (padded 4 m.year.natAbs ++ rest)) = some (m.year, rest) := by
  have hlen := h.isField.length_eq
  rw [takeYear_append (isNumeral_padded 4 _) (Nat.le_of_eq hlen) (.inl hlen),
    Text.digitsValue_padded, h.natAbs_eq]

/-- The rest of a layout after the date reads what is written after the date. -/
theorem parse_date (h : m.Fits) (separator : Char) (ps : Layout) (rest : List Char) :
    Layout.parse (dateParts separator ++ ps) (dateText separator m ++ rest) =
      (Layout.read ps ⟨m.year, m.month, m.day, 0, 0, 0⟩ rest).filter Moment.isValid := by
  simp only [Layout.parse, dateParts, dateText, List.append_assoc, List.cons_append,
    List.nil_append, read_cons, Part.read, takeYear_padded h.year, takeNumber_padded h.month,
    takeNumber_padded h.day, Option.map_some, Option.bind_some, if_true]

theorem parse_date_ne {other : Char} (h : m.Fits) (hne : separator ≠ other) (ps : Layout)
    (rest : List Char) :
    Layout.parse (dateParts other ++ ps) (dateText separator m ++ rest) = none := by
  have hlen := h.year.isField.length_eq
  rw [dateText, List.append_assoc, List.cons_append]
  exact parse_of_read_none
    (read_year_ne (isNumeral_padded 4 _) (Nat.le_of_eq hlen) (.inl hlen) hne _)

theorem read_minute (h : m.Fits) (ps : Layout) (n : Moment) (rest : List Char) :
    Layout.read (minuteParts ++ ps) n (m.minuteText ++ rest) =
      Layout.read ps { n with hour := m.hour, minute := m.minute } rest := by
  simp only [minuteParts, minuteText, List.append_assoc, List.cons_append, List.nil_append,
    read_cons, Part.read, takeNumber_padded h.hour, takeNumber_padded h.minute,
    Option.map_some, Option.bind_some, if_true]

theorem read_second (h : m.Fits) (n : Moment) :
    Layout.read secondPart n (':' :: padded 2 m.second) = some { n with second := m.second } := by
  have htake := takeNumber_padded h.second []
  rw [List.append_nil] at htake
  simp only [secondPart, read_cons, Part.read, if_true, htake, Option.map_some, Option.bind_some]
  rfl

theorem read_gap_space {cs : List Char} (h : Text.StartsInked cs) (ps : Layout) (n : Moment) :
    Layout.read (.gap :: ps) n (' ' :: cs) = Layout.read ps n cs := by
  have hblank : ∀ c ∈ [' '], Text.isBlank c := List.forall_mem_singleton.mpr rfl
  have htrim : trimStart (' ' :: cs) = cs := h.trimStart_append hblank
  rw [read_cons, Part.read, htrim]
  rfl

theorem read_gap_minute (m : Moment) (ps : Layout) (n : Moment) (rest : List Char) :
    Layout.read (.gap :: ps) n (' ' :: (m.minuteText ++ rest)) =
      Layout.read ps n (m.minuteText ++ rest) :=
  read_gap_space ((isTrimmed_minuteText m).1.append rest) ps n

/-- A time of day starts with a digit, after blanks. -/
theorem read_gap_clock_mark (ps : Layout) (n : Moment) (rest : List Char) :
    Layout.read (.gap :: (minuteParts ++ ps)) n ('T' :: rest) = none := by
  have hblank : Text.isBlank 'T' = false := rfl
  have hdigit : 'T'.isDigit = false := rfl
  simp only [minuteParts, List.cons_append, read_cons, Part.read, Text.trimStart_cons hblank,
    takeNumber_cons hdigit, Option.bind_some, Option.map_none, Option.bind_none]

theorem read_gap_clock_nil (ps : Layout) (n : Moment) :
    Layout.read (.gap :: (minuteParts ++ ps)) n [] = none := by
  simp only [minuteParts, List.cons_append, read_cons, Part.read, trimStart, List.dropWhile_nil,
    takeNumber_nil, Option.bind_some, Option.map_none, Option.bind_none]

theorem read_mark_self (c : Char) (ps : Layout) (n : Moment) (rest : List Char) :
    Layout.read (.mark c :: ps) n (c :: rest) = Layout.read ps n rest := by
  simp only [read_cons, Part.read, if_true, Option.bind_some]

theorem read_mark_space (ps : Layout) (n : Moment) (rest : List Char) :
    Layout.read (.mark 'T' :: ps) n (' ' :: rest) = none := rfl

theorem read_mark_nil (c : Char) (ps : Layout) (n : Moment) :
    Layout.read (.mark c :: ps) n [] = none := rfl

theorem read_second_nil (n : Moment) : Layout.read secondPart n [] = none := rfl

theorem read_nil (n : Moment) : Layout.read [] n [] = some n := rfl

theorem read_day {ds : List Char} (h : IsNumeral ds) (hlen : ds.length ≤ 2) (hstop : Stops rest)
    (ps : Layout) (n : Moment) :
    Layout.read (.day :: ps) n (ds ++ rest) =
      Layout.read ps { n with day := digitsValue ds } rest := by
  simp only [read_cons, Part.read, trimStart_numeral h, takeNumber_append h hlen (.inr hstop),
    Option.map_some, Option.bind_some]

theorem read_monthTitle {month : Nat} (hlo : 1 ≤ month) (hhi : month ≤ 12) (ps : Layout)
    (n : Moment) (rest : List Char) :
    Layout.read (.monthName :: ps) n (monthTitle month ++ ' ' :: rest) =
      Layout.read ps { n with month := month } (' ' :: rest) := by
  have htake : takeMonthName (monthTitle month ++ ' ' :: rest) 1 monthNames =
      some (month, ' ' :: rest) := by
    interval_cases month <;> rfl
  simp only [read_cons, Part.read, htake, Option.map_some, Option.bind_some]

theorem read_year (h : m.HasFourDigitYear) (n : Moment) :
    Layout.read [.year] n (padded 4 m.year.natAbs) = some { n with year := m.year } := by
  have htake := takeYear_padded h []
  rw [List.append_nil] at htake
  simp only [read_cons, Part.read, htake, Option.map_some, Option.bind_some]
  rfl

/-! ## Instants -/

theorem takeFixed_two {k : Nat} (h : k < 100) (rest : List Char) :
    takeFixed 2 (padded 2 k ++ rest) = some (k, rest) :=
  takeFixed_padded (by decide) h rest

theorem takeMark_self (c : Char) (rest : List Char) : takeMark c (c :: rest) = some rest :=
  if_pos rfl

theorem takeMark_of_isMark {mark : Char} (h : IsMark mark) (cs : List Char) :
    (takeMark 'T' (mark :: cs) <|> takeMark 't' (mark :: cs) <|> takeMark ' ' (mark :: cs)) =
      some cs := by
  rcases h with rfl | rfl | rfl <;> rfl

theorem takeDate_date (h : m.Fits) (rest : List Char) :
    takeDate (dateText '-' m ++ rest) = some (⟨m.year, m.month, m.day, 0, 0, 0⟩, rest) := by
  have hyear := takeFixed_padded (show 0 < 4 by decide) h.year.natAbs_lt
  simp only [takeDate, dateText, List.append_assoc, List.cons_append, hyear,
    takeFixed_two h.month, takeFixed_two h.day, takeMark_self, Option.bind_eq_bind,
    Option.bind_some, h.year.natAbs_eq]
  rfl

theorem takeTime_second (h : m.Fits) (n : Moment) (rest : List Char) :
    takeTime n (m.secondText ++ rest) = (takeDecimals rest).map fun cs =>
      ({ n with hour := m.hour, minute := m.minute, second := m.second }, cs) := by
  simp only [takeTime, secondText, minuteText, List.append_assoc, List.cons_append,
    takeFixed_two h.hour, takeFixed_two h.minute, takeFixed_two h.second, takeMark_self,
    Option.bind_eq_bind, Option.bind_some]
  cases takeDecimals rest <;> rfl

/-- A time without seconds does not do. -/
theorem takeTime_minute (h : m.Fits) (n : Moment) : takeTime n m.minuteText = none := by
  have hminute := takeFixed_two h.minute []
  rw [List.append_nil] at hminute
  simp only [takeTime, minuteText, takeFixed_two h.hour, hminute, takeMark_self,
    Option.bind_eq_bind, Option.bind_some]
  rfl

theorem parseInstant_second {mark : Char} (h : m.Fits) (hmark : IsMark mark) (rest : List Char) :
    parseInstant (dateText '-' m ++ mark :: (m.secondText ++ rest)) =
      (takeDecimals rest).bind fun cs => (takeOffset cs).bind fun r =>
        if r.2.isEmpty ∧ m.isValid then some (m.minusMinutes r.1) else none := by
  simp only [parseInstant, takeDate_date h, takeMark_of_isMark hmark, takeTime_second h,
    Option.bind_eq_bind, Option.bind_some]
  cases takeDecimals rest <;> rfl

theorem parseInstant_minute {mark : Char} (h : m.Fits) (hmark : IsMark mark) :
    parseInstant (dateText '-' m ++ mark :: m.minuteText) = none := by
  simp only [parseInstant, takeDate_date h, takeMark_of_isMark hmark, takeTime_minute h,
    Option.bind_eq_bind, Option.bind_some, Option.bind_none]

theorem parseInstant_date (h : m.Fits) : parseInstant (dateText '-' m) = none := by
  rw [← List.append_nil (dateText '-' m), parseInstant, takeDate_date h]
  rfl

theorem parseInstant_slashed (h : m.Fits) (rest : List Char) :
    parseInstant (dateText '/' m ++ rest) = none := by
  rw [dateText, List.append_assoc, List.cons_append]
  exact parseInstant_year_ne h.year.isField (by decide) _

/-! ## The first layout that fits -/

theorem parseMoment_of_layouts {cs : List Char} (h : parseInstant cs = none) :
    parseMoment cs = layouts.findSome? (·.parse cs) := by
  rw [parseMoment, h, Option.none_or]

theorem parseMoment_dashedT (h : m.Fits) (hvalid : m.isValid) :
    parseMoment (dateText '-' m ++ 'T' :: m.secondText) = some m := by
  have hinstant := parseInstant_second h (.inl rfl) []
  rw [List.append_nil] at hinstant
  rw [parseMoment_of_layouts hinstant]
  simp only [layouts_eq, List.findSome?_cons, parse_date h, secondText, read_mark_self,
    read_minute h, read_second h, Option.filter_some, hvalid, if_true]

theorem parseMoment_dashed (h : m.Fits) (hvalid : m.isValid) :
    parseMoment (dateText '-' m ++ ' ' :: m.secondText) = some m := by
  have hinstant := parseInstant_second h (.inr (.inr rfl)) []
  rw [List.append_nil] at hinstant
  rw [parseMoment_of_layouts hinstant]
  simp only [layouts_eq, List.findSome?_cons, parse_date h, secondText, read_mark_space,
    read_gap_minute, read_minute h, read_second h, Option.filter_some, Option.filter_none, hvalid,
    if_true]

theorem parseMoment_slashed (h : m.Fits) (hvalid : m.isValid) :
    parseMoment (dateText '/' m ++ ' ' :: m.secondText) = some m := by
  have hne : '/' ≠ '-' := by decide
  rw [parseMoment_of_layouts (parseInstant_slashed h _)]
  simp only [layouts_eq, List.findSome?_cons, parse_date h, parse_date_ne h hne, secondText,
    read_gap_minute, read_minute h, read_second h, Option.filter_some, hvalid, if_true]

theorem parseMoment_dashedTMinute (h : m.Fits) (hvalid : m.isValid) (hsecond : m.second = 0) :
    parseMoment (dateText '-' m ++ 'T' :: m.minuteText) = some m := by
  rw [parseMoment_of_layouts (parseInstant_minute h (.inl rfl)), ← List.append_nil m.minuteText]
  simp only [layouts_eq, List.findSome?_cons, parse_date h, read_mark_self, read_minute h,
    read_second_nil, read_gap_clock_mark, read_nil, Option.filter_some, Option.filter_none,
    eq_of_second hsecond, hvalid, if_true]

theorem parseMoment_dashedMinute (h : m.Fits) (hvalid : m.isValid) (hsecond : m.second = 0) :
    parseMoment (dateText '-' m ++ ' ' :: m.minuteText) = some m := by
  rw [parseMoment_of_layouts (parseInstant_minute h (.inr (.inr rfl))),
    ← List.append_nil m.minuteText]
  simp only [layouts_eq, List.findSome?_cons, parse_date h, read_mark_space, read_gap_minute,
    read_minute h, read_second_nil, read_nil, Option.filter_some, Option.filter_none,
    eq_of_second hsecond, hvalid, if_true]

theorem parseMoment_slashedMinute (h : m.Fits) (hvalid : m.isValid) (hsecond : m.second = 0) :
    parseMoment (dateText '/' m ++ ' ' :: m.minuteText) = some m := by
  have hne : '/' ≠ '-' := by decide
  rw [parseMoment_of_layouts (parseInstant_slashed h _), ← List.append_nil m.minuteText]
  simp only [layouts_eq, List.findSome?_cons, parse_date h, parse_date_ne h hne, read_gap_minute,
    read_minute h, read_second_nil, read_nil, Option.filter_some, Option.filter_none,
    eq_of_second hsecond, hvalid, if_true]

/-- Digits for a date are no day and month. -/
theorem parse_names_date (h : m.Fits) (separator : Char) :
    dayMonthParts.parse (dateText separator m) = none ∧
      monthDayParts.parse (dateText separator m) = none := by
  have hyear := h.year.isField
  obtain ⟨a, b, c, d, heq⟩ := List.length_eq_four.mp hyear.length_eq
  rw [dateText, heq]
  rw [heq] at hyear
  have hday : IsNumeral [a, b] :=
    ⟨by simp, fun x hx => hyear.all_digits x (List.mem_append_left [c, d] hx)⟩
  have ha : a.isDigit := hyear.all_digits a (by simp)
  have hc : c.isDigit := hyear.all_digits c (by simp)
  exact ⟨parse_of_read_none (read_dayMonth_digit hday rfl hc _),
    parse_of_read_none (read_monthDay_ne (isAlpha_of_isDigit ha) _)⟩

/-- Digits with dashes are the date, if there is such a day. -/
theorem parseMoment_dashedDate (h : m.Fits) (hmidnight : m.IsMidnight) :
    parseMoment (dateText '-' m) = if m.isValid then some m else none := by
  have hne : '-' ≠ '/' := by decide
  -- The layouts before that of the date alone want a time, and those after it a name.
  obtain ⟨hdayMonth, hmonthDay⟩ := parse_names_date h '-'
  rw [parseMoment_of_layouts (parseInstant_date h)]
  rw [← List.append_nil (dateText '-' m)] at hdayMonth hmonthDay ⊢
  simp only [layouts_eq, List.findSome?_cons, List.findSome?_nil, parse_date h, parse_date_ne h hne,
    read_mark_nil, read_gap_clock_nil, read_nil, Option.filter_some, Option.filter_none,
    hmidnight.eq, hdayMonth, hmonthDay]
  cases m.isValid <;> rfl

theorem parseMoment_slashedDate (h : m.Fits) (hvalid : m.isValid) (hmidnight : m.IsMidnight) :
    parseMoment (dateText '/' m) = some m := by
  have hne : '/' ≠ '-' := by decide
  rw [← List.append_nil (dateText '/' m), parseMoment_of_layouts (parseInstant_slashed h _)]
  simp only [layouts_eq, List.findSome?_cons, parse_date h, parse_date_ne h hne,
    read_gap_clock_nil, read_nil, Option.filter_some, Option.filter_none, hmidnight.eq,
    hvalid, if_true]

theorem parseMoment_dayMonth {day : List Char} (h : m.Fits) (hvalid : m.isValid)
    (hmidnight : m.IsMidnight) (hday : m.WritesDay day) :
    parseMoment (day ++ ' ' :: (monthTitle m.month ++ ' ' :: padded 4 m.year.natAbs)) = some m := by
  obtain ⟨hnum, hlen, hvalue⟩ := hday.spec h.day
  obtain ⟨-, -, hcivil⟩ := isValid_iff.mp hvalid
  obtain ⟨c, cs, htitle, hc⟩ := monthTitle_eq_cons hcivil.month_pos hcivil.month_le
  have hmonth : ∀ rest, Text.StartsInked (monthTitle m.month ++ rest) := fun rest =>
    ⟨c, cs ++ rest, by rw [htitle]; rfl, (isAlpha_ne hc).2.2.2⟩
  have hyear := (isNumeral_padded 4 m.year.natAbs).isTrimmed.1
  have hshort : day.length < 4 := by omega
  have hstop : ∀ rest, Stops (' ' :: rest) := stops_cons rfl
  -- A day of one or two digits is read as a year, but no separator follows.
  have hdate : ∀ separator ps rest, ' ' ≠ separator →
      Layout.parse (dateParts separator ++ ps) (day ++ ' ' :: rest) = none :=
    fun separator ps rest hne =>
      parse_of_read_none (read_year_ne hnum (Nat.le_of_lt hshort) (.inr rfl) hne rest)
  rw [parseMoment_of_layouts (parseInstant_of_short hshort rfl _)]
  simp only [layouts_eq, List.findSome?_cons, hdate '-' _ _ (by decide), hdate '/' _ _ (by decide)]
  simp only [Layout.parse, dayMonthParts, read_day hnum hlen (hstop _), hvalue,
    read_gap_space (hmonth _), read_monthTitle hcivil.month_pos hcivil.month_le,
    read_gap_space hyear, read_year h.year, hmidnight.eq, Option.filter_some, hvalid, if_true]

theorem parseMoment_monthDay {day : List Char} (h : m.Fits) (hvalid : m.isValid)
    (hmidnight : m.IsMidnight) (hday : m.WritesDay day) :
    parseMoment (monthTitle m.month ++ ' ' :: (day ++ ',' :: ' ' :: padded 4 m.year.natAbs)) =
      some m := by
  obtain ⟨hnum, hlen, hvalue⟩ := hday.spec h.day
  obtain ⟨-, -, hcivil⟩ := isValid_iff.mp hvalid
  obtain ⟨c, cs, htitle, hc⟩ := monthTitle_eq_cons hcivil.month_pos hcivil.month_le
  obtain ⟨hdigit, -, -, hblank⟩ := isAlpha_ne hc
  have hyear := (isNumeral_padded 4 m.year.natAbs).isTrimmed.1
  have hstop : ∀ rest, Stops (',' :: rest) := stops_cons rfl
  have hinstant : ∀ rest, parseInstant (monthTitle m.month ++ rest) = none := by
    intro rest
    have hempty : ([] : List Char).length < 4 := by decide
    rw [htitle]
    exact parseInstant_of_short hempty hdigit (cs ++ rest)
  have hdate : ∀ separator ps rest,
      Layout.parse (dateParts separator ++ ps) (monthTitle m.month ++ rest) = none := by
    intro separator ps rest
    rw [htitle]
    exact parse_of_read_none (read_year_isAlpha hc (cs ++ rest))
  have hdayMonth : ∀ rest, dayMonthParts.parse (monthTitle m.month ++ rest) = none := by
    intro rest
    rw [htitle]
    exact parse_of_read_none (read_dayMonth_ne hdigit hblank (cs ++ rest))
  rw [parseMoment_of_layouts (hinstant _)]
  simp only [layouts_eq, List.findSome?_cons, hdate, hdayMonth]
  simp only [Layout.parse, monthDayParts, read_monthTitle hcivil.month_pos hcivil.month_le,
    read_gap_space (hnum.isTrimmed.1.append _), read_day hnum hlen (hstop _), hvalue,
    read_mark_self, read_gap_space hyear, read_year h.year, hmidnight.eq, Option.filter_some,
    hvalid, if_true]

/-! ## Offsets -/

theorem takeClock_padded {hours minutes : Nat} (hhours : hours ≤ 23) (hminutes : minutes ≤ 59) :
    takeClock (padded 2 hours ++ ':' :: padded 2 minutes) =
      some ((hours : Int) * 60 + minutes, []) := by
  have hminute := takeFixed_two (show minutes < 100 by omega) []
  rw [List.append_nil] at hminute
  simp only [takeClock, takeFixed_two (show hours < 100 by omega), hminute, takeMark_self,
    Option.bind_eq_bind, Option.bind_some, hhours, hminutes, and_self, if_true]
  rfl

theorem takeOffset_written {offset : Int} {zone : List Char} (h : WritesOffset offset zone) :
    takeOffset zone = some (offset, []) := by
  cases h with
  | zero h => exact if_pos h
  | ahead hhours hminutes => exact takeClock_padded hhours hminutes
  | behind hhours hminutes =>
    exact congrArg (Option.map fun r => (-r.1, r.2)) (takeClock_padded hhours hminutes)

theorem WritesOffset.exists_cons {offset : Int} {zone : List Char} (h : WritesOffset offset zone) :
    ∃ c rest, zone = c :: rest ∧ c.isDigit = false ∧ c ≠ '.' := by
  cases h with
  | zero h => rcases h with rfl | rfl <;> exact ⟨_, _, rfl, rfl, by decide⟩
  | ahead hhours hminutes => exact ⟨_, _, rfl, rfl, by decide⟩
  | behind hhours hminutes => exact ⟨_, _, rfl, rfl, by decide⟩

theorem takeDecimals_of_ne {c : Char} (h : c ≠ '.') (rest : List Char) :
    takeDecimals (c :: rest) = some (c :: rest) := by
  unfold takeDecimals
  split
  · rename_i heq
    exact absurd (List.cons.inj heq).1 h
  · rfl

theorem takeDecimals_append {ds : List Char} (h : IsNumeral ds) (hstop : Stops rest) :
    takeDecimals ('.' :: (ds ++ rest)) = some rest := by
  have htake : (ds ++ rest).takeWhile Char.isDigit = ds := takeWhile_stops h.all_digits hstop
  have hdrop : (ds ++ rest).dropWhile Char.isDigit = rest := by
    have hsplit := List.takeWhile_append_dropWhile (p := Char.isDigit) (l := ds ++ rest)
    rw [htake] at hsplit
    exact List.append_cancel_left hsplit
  rw [takeDecimals, htake, hdrop]
  simp [h.ne_nil]

theorem parseMoment_instant {offset : Int} {text : List Char} (h : m.Fits) (hvalid : m.isValid)
    (htext : WritesInstant m offset text) :
    parseMoment text = some (m.minusMinutes offset) := by
  cases htext with
  | @mk mark decimals zone hmark hdecimals hzone =>
    obtain ⟨c, rest, hcons, hdigit, hpoint⟩ := WritesOffset.exists_cons hzone
    have hskip : takeDecimals (decimals ++ zone) = some zone := by
      rw [hcons]
      rcases hdecimals with rfl | ⟨ds, hds, rfl⟩
      · exact takeDecimals_of_ne hpoint rest
      · exact takeDecimals_append hds (stops_cons hdigit rest)
    rw [parseMoment, parseInstant_second h hmark, hskip, Option.bind_some,
      takeOffset_written hzone, Option.bind_some]
    simp [hvalid]

theorem parseMoment_of_writes {text : List Char} (h : m.IsCivil) (hyear : m.HasFourDigitYear)
    (htext : m.Writes text) : parseMoment text = some m := by
  have hfits := h.fits hyear
  have hvalid := isValid_of_isCivil h hyear
  cases htext with
  | dashedT => exact parseMoment_dashedT hfits hvalid
  | dashed => exact parseMoment_dashed hfits hvalid
  | slashed => exact parseMoment_slashed hfits hvalid
  | universal =>
    have hdecimals : ([] : List Char) = [] ∨ ∃ ds, IsNumeral ds ∧ [] = '.' :: ds := .inl rfl
    have hinstant := parseMoment_instant hfits hvalid (.mk (.inl rfl) hdecimals (.zero (.inl rfl)))
    rwa [minusMinutes_zero h] at hinstant
  | dashedTMinute hsecond => exact parseMoment_dashedTMinute hfits hvalid hsecond
  | dashedMinute hsecond => exact parseMoment_dashedMinute hfits hvalid hsecond
  | slashedMinute hsecond => exact parseMoment_slashedMinute hfits hvalid hsecond
  | dashedDate hmidnight => rw [parseMoment_dashedDate hfits hmidnight, if_pos hvalid]
  | slashedDate hmidnight => exact parseMoment_slashedDate hfits hvalid hmidnight
  | dayMonth hmidnight hday => exact parseMoment_dayMonth hfits hvalid hmidnight hday
  | monthDay hmidnight hday => exact parseMoment_monthDay hfits hvalid hmidnight hday

/-! ## Blanks around a date -/

theorem isTrimmed_of_writes {text : List Char} (h : m.IsCivil) (hyear : m.HasFourDigitYear)
    (htext : m.Writes text) : Text.IsTrimmed text := by
  have hdate := fun separator => (isTrimmed_dateText separator m).1
  have hminute := (isTrimmed_minuteText m).2
  have hsecond := (isTrimmed_secondText m).2
  cases htext with
  | dashedT => exact Text.isTrimmed_append (hdate '-') hsecond ['T']
  | dashed => exact Text.isTrimmed_append (hdate '-') hsecond [' ']
  | slashed => exact Text.isTrimmed_append (hdate '/') hsecond [' ']
  | universal =>
    exact Text.isTrimmed_append (hdate '-') ⟨'Z', [], rfl, rfl⟩ ('T' :: m.secondText)
  | dashedTMinute => exact Text.isTrimmed_append (hdate '-') hminute ['T']
  | dashedMinute => exact Text.isTrimmed_append (hdate '-') hminute [' ']
  | slashedMinute => exact Text.isTrimmed_append (hdate '/') hminute [' ']
  | dashedDate => exact isTrimmed_dateText '-' m
  | slashedDate => exact isTrimmed_dateText '/' m
  | @dayMonth _ day hday =>
    have hstart := (hday.spec (h.fits hyear).day).1.isTrimmed.1
    have htrimmed := Text.isTrimmed_append hstart (endsInked_padded 4 m.year.natAbs)
      (' ' :: (monthTitle m.month ++ [' ']))
    simpa using htrimmed
  | @monthDay _ day hday =>
    obtain ⟨c, cs, htitle, hc⟩ := monthTitle_eq_cons h.month_pos h.month_le
    have htrimmed := Text.isTrimmed_append ⟨c, cs, htitle, (isAlpha_ne hc).2.2.2⟩
      (endsInked_padded 4 m.year.natAbs) (' ' :: (day ++ [',', ' ']))
    simpa using htrimmed

theorem isTrimmed_of_writesInstant {offset : Int} {text : List Char}
    (h : m.WritesInstant offset text) : Text.IsTrimmed text := by
  cases h with
  | @mk mark decimals zone hmark hdecimals hzone =>
    have hend : Text.StartsInked zone.reverse := by
      cases hzone with
      | zero h => rcases h with rfl | rfl <;> exact ⟨_, _, rfl, rfl⟩
      | @ahead hours minutes =>
        have hclock := (endsInked_padded 2 minutes).reverse_append [':']
        exact hclock.reverse_append ('+' :: padded 2 hours)
      | @behind hours minutes =>
        have hclock := (endsInked_padded 2 minutes).reverse_append [':']
        exact hclock.reverse_append ('-' :: padded 2 hours)
    have htrimmed := Text.isTrimmed_append (isTrimmed_dateText '-' m).1 hend
      (mark :: (m.secondText ++ decimals))
    simpa using htrimmed

theorem formatDate_of_trimmed {pre text post : List Char} (htrimmed : Text.IsTrimmed text)
    (h : parseMoment text = some m) (hyear : m.HasFourDigitYear)
    (hpre : ∀ c ∈ pre, Text.isBlank c) (hpost : ∀ c ∈ post, Text.isBlank c) :
    formatDate (String.ofList (pre ++ text ++ post)) = .ok (String.ofList m.stamp) := by
  rw [← compact_eq_stamp hyear]
  exact formatDate_of_moment (by rw [htrimmed.trim_append hpre hpost, h])

/-! ## Dates in digits with dashes -/

/-- Any digits in place of a date are the text of a moment, which need not exist. -/
theorem Dashed.exists_moment {cs ds : List Char} (h : Dashed cs ds) :
    ∃ m : Moment, m.Fits ∧ m.IsMidnight ∧ cs = dateText '-' m ∧
      m.stamp = ds ++ List.replicate 6 '0' := by
  obtain @⟨year, month, day, hyear, hmonth, hday⟩ := h
  have hy := hyear.padded_digitsValue (by decide)
  have hm := hmonth.padded_digitsValue (by decide)
  have hd := hday.padded_digitsValue (by decide)
  have hlt : digitsValue year < 10000 := hyear.digitsValue_lt
  have hzero : 0 < 100 := by decide
  -- The moment has the numbers of the digits, so its padded parts are the digits again.
  refine ⟨⟨digitsValue year, digitsValue month, digitsValue day, 0, 0, 0⟩, ?_, ⟨rfl, rfl, rfl⟩,
    ?_, ?_⟩
  · exact ⟨⟨by dsimp only; omega, by dsimp only; omega⟩, hmonth.digitsValue_lt, hday.digitsValue_lt,
      hzero, hzero, hzero⟩
  · simp only [dateText, Int.natAbs_natCast, hy, hm, hd]
  · have hmidnight : padded 2 0 = ['0', '0'] := rfl
    simp [stamp, hy, hm, hd, hmidnight]

theorem formatDate_of_dashedShape {cs ds : List Char} (h : Dashed cs ds) :
    formatDate (String.ofList cs) = .ok (String.ofList (ds ++ List.replicate 6 '0')) := by
  obtain ⟨m, hfits, hmidnight, rfl, hstamp⟩ := h.exists_moment
  have htrimmed := isTrimmed_dateText '-' m
  have htrim : Text.trim (String.ofList (dateText '-' m)) = String.ofList (dateText '-' m) :=
    Text.IsTrimmed.trim_eq (by rwa [String.toList_ofList])
  have hmoment := parseMoment_dashedDate hfits hmidnight
  by_cases hvalid : m.isValid
  · rw [if_pos hvalid] at hmoment
    rw [← hstamp, ← compact_eq_stamp hfits.year]
    exact formatDate_of_moment (by rw [htrim, String.toList_ofList, hmoment])
  · -- There is no such day, and the digits are taken as they are.
    rw [if_neg hvalid] at hmoment
    exact formatDate_of_dashed (by rw [htrim, String.toList_ofList, hmoment])
      (by rwa [String.toList_ofList])

end Calendar

open Calendar

/-- All ways to write a moment give its timestamp, also with blanks around them. With an offset a
text gives the timestamp of the same instant in universal time, of which there is one. Digits with
dashes give the digits and midnight, whether or not there is such a day. -/
theorem layouts_agree :
    (∀ (m : Moment) (pre text post : List Char), m.IsCivil → m.HasFourDigitYear → m.Writes text →
      (∀ c ∈ pre, Text.isBlank c) → (∀ c ∈ post, Text.isBlank c) →
      formatDate (String.ofList (pre ++ text ++ post)) = .ok (String.ofList m.stamp)) ∧
    (∀ (m : Moment) (offset : Int) (pre text post : List Char), m.IsCivil → m.HasFourDigitYear →
      m.WritesInstant offset text →
      (∀ c ∈ pre, Text.isBlank c) → (∀ c ∈ post, Text.isBlank c) →
      ∃ u : Moment, u.IsUniversal m offset ∧ (∀ v : Moment, v.IsUniversal m offset → v = u) ∧
        (u.HasFourDigitYear →
          formatDate (String.ofList (pre ++ text ++ post)) = .ok (String.ofList u.stamp))) ∧
    ∀ cs ds, Dashed cs ds →
      formatDate (String.ofList cs) = .ok (String.ofList (ds ++ List.replicate 6 '0')) := by
  refine ⟨?_, ?_, fun cs ds => formatDate_of_dashedShape⟩
  · intro m pre text post hm hyear htext hpre hpost
    exact formatDate_of_trimmed (isTrimmed_of_writes hm hyear htext)
      (parseMoment_of_writes hm hyear htext) hyear hpre hpost
  · intro m offset pre text post hm hyear htext hpre hpost
    have hmoment := parseMoment_instant (hm.fits hyear) (Moment.isValid_of_isCivil hm hyear) htext
    obtain ⟨hcivil, hnumber, hsecond⟩ := Moment.minusMinutes_spec hm htext.offset_bounds.1
      htext.offset_bounds.2
    refine ⟨m.minusMinutes offset, ⟨hcivil, hnumber, hsecond⟩, ?_, ?_⟩
    · rintro v ⟨hv, hnumber', hsecond'⟩
      exact Moment.eq_of_minuteNumber hv hcivil (hnumber'.trans hnumber.symm)
        (hsecond'.trans hsecond.symm)
    · intro hyear'
      exact formatDate_of_trimmed (isTrimmed_of_writesInstant htext) hmoment hyear' hpre hpost

/-- The offset carries into the next year, and there is no 31 February. -/
theorem layouts_agree_new_year :
    formatDate " 31 December 2023\t" = .ok "20231231000000" ∧
      formatDate "2023-12-31T23:30:00.5-01:00" = .ok "20240101003000" ∧
      formatDate "2023-02-31" = .ok "20230231000000" := by
  have hday : (⟨2023, 12, 31, 0, 0, 0⟩ : Moment).IsCivil := by constructor <;> decide
  have hhere : (⟨2023, 12, 31, 23, 30, 0⟩ : Moment).IsCivil := by constructor <;> decide
  have hthere : (⟨2024, 1, 1, 0, 30, 0⟩ : Moment).IsUniversal ⟨2023, 12, 31, 23, 30, 0⟩ (-60) :=
    ⟨by constructor <;> decide, by decide, rfl⟩
  have hyear : 0 ≤ (2023 : Int) ∧ (2023 : Int) ≤ 9999 := by decide
  have hwrites : (⟨2023, 12, 31, 0, 0, 0⟩ : Moment).Writes "31 December 2023".toList :=
    @Moment.Writes.dayMonth _ ⟨rfl, rfl, rfl⟩ ['3', '1'] (.inl rfl)
  have hpoint : IsNumeral ['5'] := ⟨by decide, List.all_eq_true.mp rfl⟩
  have hzone : Moment.WritesOffset (-60) "-01:00".toList :=
    @Moment.WritesOffset.behind 1 0 (by decide) (by decide)
  have hwritesInstant : (⟨2023, 12, 31, 23, 30, 0⟩ : Moment).WritesInstant (-60)
      "2023-12-31T23:30:00.5-01:00".toList :=
    @Moment.WritesInstant.mk _ _ 'T' ['.', '5'] _ (.inl rfl) (.inr ⟨['5'], hpoint, rfl⟩) hzone
  have hdigits : Dashed "2023-02-31".toList "20230231".toList :=
    @Dashed.mk ['2', '0', '2', '3'] ['0', '2'] ['3', '1'] ⟨rfl, List.all_eq_true.mp rfl⟩
      ⟨rfl, List.all_eq_true.mp rfl⟩ ⟨rfl, List.all_eq_true.mp rfl⟩
  obtain ⟨hwritten, hinstant, hdashed⟩ := layouts_agree
  have hwritten := hwritten _ [' '] _ ['\t'] hday hyear hwrites (List.all_eq_true.mp rfl)
    (List.all_eq_true.mp rfl)
  have hdashed := hdashed _ _ hdigits
  obtain ⟨u, -, huniq, hformat⟩ :=
    hinstant _ _ [] _ [] hhere hyear hwritesInstant (List.forall_mem_nil _) (List.forall_mem_nil _)
  obtain rfl := huniq _ hthere
  exact ⟨hwritten, hformat (by constructor <;> decide), hdashed⟩

end NewsSearch
