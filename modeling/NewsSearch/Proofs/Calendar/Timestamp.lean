import NewsSearch.Proofs.Calendar.Civil
import NewsSearch.Proofs.Calendar.Reading
import NewsSearch.Proofs.Filter.Validation
import Mathlib.Data.List.Basic

/-!
# Timestamps of accepted dates

The API takes fourteen digits. A date is accepted as such a timestamp when the moment it names is in
a year of four digits in universal time. Any other year is written with a sign, which the API does
not take, and what was written is itself no date.
-/

namespace NewsSearch

open Text (padded digitsValue)

namespace Moment

def HasFourDigitYear (m : Moment) : Prop := 0 ≤ m.year ∧ m.year ≤ 9999

/-- `YYYYMMDDHHMMSS` -/
def stamp (m : Moment) : List Char :=
  padded 4 m.year.natAbs ++ padded 2 m.month ++ padded 2 m.day
    ++ padded 2 m.hour ++ padded 2 m.minute ++ padded 2 m.second

variable {m : Moment}

theorem HasFourDigitYear.natAbs_lt (h : m.HasFourDigitYear) : m.year.natAbs < 10000 := by
  obtain ⟨hlo, hhi⟩ := h
  omega

theorem HasFourDigitYear.isField (h : m.HasFourDigitYear) :
    Calendar.IsField 4 (padded 4 m.year.natAbs) :=
  Calendar.isField_padded (by decide) h.natAbs_lt

/-- Every part can be written in its width. -/
structure Fits (m : Moment) : Prop where
  year : m.HasFourDigitYear
  month : m.month < 100
  day : m.day < 100
  hour : m.hour < 100
  minute : m.minute < 100
  second : m.second < 100

theorem IsCivil.fits (h : m.IsCivil) (hyear : m.HasFourDigitYear) : m.Fits := by
  obtain ⟨-, hmonth, -, hday, hhour, hminute, hsecond⟩ := h
  have hlen := (monthLength_bounds m.year m.month).2
  exact ⟨hyear, by omega, by omega, by omega, by omega, by omega⟩

theorem isField_stamp (h : m.Fits) : Calendar.IsField 14 m.stamp := by
  have htwo : ∀ n < 100, Calendar.IsField 2 (padded 2 n) :=
    fun n hn => Calendar.isField_padded (by decide) hn
  exact ((((h.year.isField.append (htwo _ h.month)).append (htwo _ h.day)).append
    (htwo _ h.hour)).append (htwo _ h.minute)).append (htwo _ h.second)

theorem compact_eq_stamp (h : m.HasFourDigitYear) : m.compact = m.stamp := by
  have hy : 0 ≤ m.year ∧ m.year < 10000 := ⟨h.1, by have := h.2; omega⟩
  rw [compact, yearText, if_pos hy]
  rfl

/-- Any other year has a sign. -/
theorem compact_signed (h : ¬ m.HasFourDigitYear) :
    ∃ sign ds, m.compact = sign :: ds ∧ (sign = '-' ∨ sign = '+') ∧ Calendar.IsNumeral ds := by
  have hy : ¬ (0 ≤ m.year ∧ m.year < 10000) := fun hy => h ⟨hy.1, by have := hy.2; omega⟩
  refine ⟨if m.year < 0 then '-' else '+', m.stamp, ?_, ?_, ?_, ?_⟩
  · rw [compact, yearText, if_neg hy]
    rfl
  · split
    · exact .inl rfl
    · exact .inr rfl
  · have := (Calendar.isNumeral_padded 4 m.year.natAbs).ne_nil
    simp [stamp, this]
  · intro c hc
    simp only [stamp, List.mem_append] at hc
    rcases hc with ((((hc | hc) | hc) | hc) | hc) | hc <;> exact Text.isDigit_of_mem_padded hc

end Moment

namespace Calendar

variable {ds rest cs : List Char} {c : Char} {m : Moment}

/-! ## Moments that are read -/

theorem takeClock_bounds {offset : Int} (h : takeClock cs = some (offset, rest)) :
    0 ≤ offset ∧ offset < 1440 := by
  simp only [takeClock, Option.bind_eq_bind, Option.bind_eq_some_iff] at h
  obtain ⟨⟨hours, cs₁⟩, -, cs₂, -, ⟨minutes, cs₃⟩, -, h⟩ := h
  split at h
  · obtain ⟨rfl, -⟩ := Prod.mk.inj (Option.some.inj h)
    omega
  · cases h

theorem takeOffset_bounds {offset : Int} (h : takeOffset cs = some (offset, rest)) :
    -1440 < offset ∧ offset < 1440 := by
  unfold takeOffset at h
  split at h
  · cases h
  · split_ifs at h
    · obtain ⟨rfl, -⟩ := Prod.mk.inj (Option.some.inj h)
      decide
    · have := takeClock_bounds h
      omega
    · obtain ⟨⟨back, cs'⟩, hclock, heq⟩ := Option.map_eq_some_iff.mp h
      have := takeClock_bounds hclock
      obtain ⟨rfl, -⟩ := Prod.mk.inj heq
      dsimp only
      omega

/-- An instant is that of a date and time which exist, moved by an offset of less than a day. -/
theorem parseInstant_eq_some (h : parseInstant cs = some m) :
    ∃ (here : Moment) (offset : Int), here.isValid ∧ -1440 < offset ∧ offset < 1440 ∧
      m = here.minusMinutes offset := by
  unfold parseInstant at h
  -- What is taken before the offset does not matter.
  iterate 3 obtain ⟨_, -, h⟩ := Option.bind_eq_some_iff.mp h
  obtain ⟨⟨offset, rest⟩, hoffset, h⟩ := Option.bind_eq_some_iff.mp h
  obtain ⟨hlo, hhi⟩ := takeOffset_bounds hoffset
  dsimp only at h
  split at h
  case isTrue hvalid => exact ⟨_, offset, hvalid.2, hlo, hhi, (Option.some.inj h).symm⟩
  case isFalse => cases h

theorem isCivil_of_parseMoment (h : parseMoment cs = some m) : m.IsCivil := by
  rcases Option.or_eq_some_iff.mp h with h | ⟨-, h⟩
  · obtain ⟨here, offset, hvalid, hlo, hhi, rfl⟩ := parseInstant_eq_some h
    exact (Moment.minusMinutes_spec (Moment.isValid_iff.mp hvalid).2.2 hlo hhi).1
  · obtain ⟨layout, -, hparse⟩ := List.exists_of_findSome?_eq_some h
    exact (Moment.isValid_iff.mp (Option.filter_eq_some_iff.mp hparse).2).2.2

/-! ## Texts that name no moment -/

theorem layout_cases {layout : Layout} (h : layout ∈ layouts) :
    (∃ separator ps, separator.isDigit = false ∧ layout = dateParts separator ++ ps) ∨
      layout = dayMonthParts ∨ layout = monthDayParts := by
  have hminus : '-'.isDigit = false := rfl
  have hslash : '/'.isDigit = false := rfl
  rw [layouts_eq] at h
  simp only [List.mem_cons, List.not_mem_nil, or_false] at h
  rcases h with rfl | rfl | rfl | rfl | rfl | rfl | rfl | rfl | rfl | rfl
  iterate 4 exact .inl ⟨'-', _, hminus, rfl⟩
  iterate 2 exact .inl ⟨'/', _, hslash, rfl⟩
  · exact .inl ⟨'-', _, hminus, rfl⟩
  · exact .inl ⟨'/', _, hslash, rfl⟩
  · exact .inr (.inl rfl)
  · exact .inr (.inr rfl)

theorem parseMoment_eq_none (hinstant : parseInstant cs = none)
    (hdate : ∀ separator ps m, separator.isDigit = false →
      Layout.read (dateParts separator ++ ps) m cs = none)
    (hdayMonth : ∀ m, Layout.read dayMonthParts m cs = none)
    (hmonthDay : ∀ m, Layout.read monthDayParts m cs = none) : parseMoment cs = none := by
  rw [parseMoment, hinstant, Option.none_or, List.findSome?_eq_none_iff]
  intro layout hlayout
  apply parse_of_read_none
  rcases layout_cases hlayout with ⟨separator, ps, hseparator, rfl⟩ | rfl | rfl
  · exact hdate separator ps _ hseparator
  · exact hdayMonth _
  · exact hmonthDay _

/-- A year with a sign has all the digits. -/
theorem parseMoment_signed (h : IsNumeral ds) (hc : c = '-' ∨ c = '+') :
    parseMoment (c :: ds) = none := by
  have hdigit : c.isDigit = false := by rcases hc with rfl | rfl <;> rfl
  have hblank : Text.isBlank c = false := by rcases hc with rfl | rfl <;> rfl
  have halpha : c.isAlpha = false := by rcases hc with rfl | rfl <;> rfl
  refine parseMoment_eq_none ?_ ?_ ?_ ?_
  · have hempty : ([] : List Char).length < 4 := by decide
    exact parseInstant_of_short hempty hdigit ds
  · exact fun separator ps m _ => read_year_sign h hc
  · exact fun m => read_dayMonth_ne hdigit hblank ds
  · exact fun m => read_monthDay_ne halpha ds

/-- Digits without a separator are no date. -/
theorem parseMoment_digits (h : ∀ c ∈ cs, c.isDigit) (hlen : 4 < cs.length) :
    parseMoment cs = none := by
  match cs, hlen with
  | a :: b :: c :: d :: e :: rest, _ =>
    -- The first four are taken for a year, or the first two for a day.
    have hyear : IsField 4 [a, b, c, d] :=
      ⟨rfl, fun x hx => h x (List.mem_append_left (e :: rest) hx)⟩
    have hday : IsField 2 [a, b] :=
      ⟨rfl, fun x hx => h x (List.mem_append_left (c :: d :: e :: rest) hx)⟩
    have hfirst : a.isDigit := h a (by simp)
    have hthird : c.isDigit := h c (by simp)
    have hfifth : e.isDigit := h e (by simp)
    have hne : ∀ mark : Char, mark.isDigit = false → e ≠ mark := by
      rintro mark hmark rfl
      rw [hfifth] at hmark
      cases hmark
    refine parseMoment_eq_none ?_ ?_ ?_ ?_
    · exact parseInstant_year_ne hyear (hne '-' rfl) rest
    · exact fun separator ps m hseparator =>
        read_year_ne (hyear.isNumeral (by decide)) (by simp) (.inl rfl) (hne _ hseparator) rest
    · exact fun m => read_dayMonth_digit (hday.isNumeral (by decide)) rfl hthird (d :: e :: rest)
    · exact fun m => read_monthDay_ne (isAlpha_of_isDigit hfirst) (b :: c :: d :: e :: rest)

/-! ## The cases of `formatDate` -/

theorem isCompact_iff : isCompact cs ↔ IsField 14 cs := by
  simp only [isCompact, Bool.and_eq_true, beq_iff_eq, List.all_eq_true]
  exact ⟨fun h => ⟨h.1, h.2⟩, fun h => ⟨h.1, h.2⟩⟩

/-- The text is `DDDD-DD-DD` with these digits. -/
inductive Dashed : List Char → List Char → Prop
  | mk {year month day : List Char} (hyear : IsField 4 year) (hmonth : IsField 2 month)
      (hday : IsField 2 day) :
      Dashed (year ++ '-' :: (month ++ '-' :: day)) (year ++ month ++ day)

theorem isDashed_iff : isDashed cs ↔ ∃ ds, Dashed cs ds := by
  constructor
  · intro h
    unfold isDashed at h
    split at h
    · rename_i a b c d s e f t g k
      simp only [Bool.and_eq_true, beq_iff_eq, List.all_cons, List.all_nil] at h
      obtain ⟨⟨rfl, rfl⟩, ha, hb, hc, hd, he, hf, hg, hk, -⟩ := h
      have hyear : IsField 4 [a, b, c, d] := ⟨rfl, by simp [*]⟩
      have hmonth : IsField 2 [e, f] := ⟨rfl, by simp [*]⟩
      have hday : IsField 2 [g, k] := ⟨rfl, by simp [*]⟩
      exact ⟨_, .mk hyear hmonth hday⟩
    · cases h
  · rintro ⟨-, ⟨hyear, hyear'⟩, ⟨hmonth, hmonth'⟩, ⟨hday, hday'⟩⟩
    obtain ⟨a, b, c, d, rfl⟩ := List.length_eq_four.mp hyear
    obtain ⟨e, f, rfl⟩ := List.length_eq_two.mp hmonth
    obtain ⟨g, k, rfl⟩ := List.length_eq_two.mp hday
    simp_all [isDashed]

theorem Dashed.isField {ds : List Char} (h : Dashed cs ds) : IsField 8 ds := by
  obtain ⟨hyear, hmonth, hday⟩ := h
  exact (hyear.append hmonth).append hday

theorem Dashed.exists_cons {ds : List Char} (h : Dashed cs ds) :
    ∃ c rest, cs = c :: rest ∧ c.isDigit := by
  obtain ⟨hyear, hmonth, hday⟩ := h
  obtain ⟨c, rest, rfl, hc⟩ := (hyear.isNumeral (by decide)).exists_cons
  exact ⟨c, _, rfl, hc⟩

theorem Dashed.length_eq {ds : List Char} (h : Dashed cs ds) : cs.length = 10 := by
  obtain ⟨hyear, hmonth, hday⟩ := h
  simp [hyear.length_eq, hmonth.length_eq, hday.length_eq]

/-- Without the dashes the digits are left. -/
theorem Dashed.filter_eq {ds : List Char} (h : Dashed cs ds) : cs.filter (· != '-') = ds := by
  have hkept : ∀ {width : Nat} {es : List Char}, IsField width es → es.filter (· != '-') = es := by
    intro width es hes
    refine List.filter_eq_self.mpr fun c hc => ?_
    have hdigit := hes.all_digits c hc
    rw [bne_iff_ne]
    rintro rfl
    cases hdigit
  obtain ⟨hyear, hmonth, hday⟩ := h
  simp [List.filter_append, hkept hyear, hkept hmonth, hkept hday]

end Calendar

open Calendar

variable {date r : String} {m : Moment}

theorem formatDate_of_isField (h : IsField 14 date.toList) : formatDate date = .ok date :=
  if_pos (isCompact_iff.mpr h)

/-- Fourteen digits name no moment. -/
theorem parseMoment_of_isField (h : IsField 14 date.toList) :
    parseMoment (Text.trim date).toList = none := by
  rw [(h.isNumeral (by decide)).isTrimmed.trim_eq]
  exact parseMoment_digits h.all_digits (by rw [h.length_eq]; decide)

theorem formatDate_of_moment (h : parseMoment (Text.trim date).toList = some m) :
    formatDate date = .ok (String.ofList m.compact) := by
  have hcompact : ¬ isCompact date.toList := by
    intro hcompact
    rw [parseMoment_of_isField (isCompact_iff.mp hcompact)] at h
    cases h
  rw [formatDate, if_neg hcompact, h]

theorem formatDate_of_dashed {ds : List Char} (h : parseMoment (Text.trim date).toList = none)
    (hdashed : Dashed date.toList ds) :
    formatDate date = .ok (String.ofList (ds ++ List.replicate 6 '0')) := by
  have hcompact : ¬ isCompact date.toList := by
    intro hcompact
    have hlen := (isCompact_iff.mp hcompact).length_eq
    rw [hdashed.length_eq] at hlen
    cases hlen
  rw [formatDate, if_neg hcompact, h]
  simp only
  rw [if_pos (isDashed_iff.mpr ⟨ds, hdashed⟩), hdashed.filter_eq]

theorem formatDate_of_not_dashed (h : parseMoment (Text.trim date).toList = none)
    (hcompact : ¬ IsField 14 date.toList) (hdashed : ¬ isDashed date.toList) :
    formatDate date = .error (.unsupportedDate date) := by
  rw [formatDate, if_neg (mt isCompact_iff.mp hcompact), h]
  exact if_neg hdashed

/-- The three ways in which a date is accepted. -/
theorem formatDate_eq_ok_cases (h : formatDate date = .ok r) :
    (IsField 14 date.toList ∧ r = date) ∨
    (∃ m, parseMoment (Text.trim date).toList = some m ∧ r = String.ofList m.compact) ∨
    (parseMoment (Text.trim date).toList = none ∧
      ∃ ds, Dashed date.toList ds ∧ r = String.ofList (ds ++ List.replicate 6 '0')) := by
  by_cases hcompact : IsField 14 date.toList
  · rw [formatDate_of_isField hcompact] at h
    exact .inl ⟨hcompact, (Except.ok.inj h).symm⟩
  cases hm : parseMoment (Text.trim date).toList with
  | some m =>
    rw [formatDate_of_moment hm] at h
    exact .inr (.inl ⟨m, rfl, (Except.ok.inj h).symm⟩)
  | none =>
    by_cases hdashed : isDashed date.toList
    · obtain ⟨ds, hds⟩ := isDashed_iff.mp hdashed
      rw [formatDate_of_dashed hm hds] at h
      exact .inr (.inr ⟨rfl, ds, hds, (Except.ok.inj h).symm⟩)
    · rw [formatDate_of_not_dashed hm hcompact hdashed] at h
      cases h

/-! ## Accepted dates -/

/-- The date names a moment in a year of more than four digits, or before year 0. -/
def NamesFarYear (date : String) : Prop :=
  ∃ m, parseMoment (Text.trim date).toList = some m ∧ ¬ m.HasFourDigitYear

theorem isField_of_formatDate (h : formatDate date = .ok r) (hyear : ¬ NamesFarYear date) :
    IsField 14 r.toList := by
  rcases formatDate_eq_ok_cases h with ⟨hfield, rfl⟩ | ⟨m, hm, rfl⟩ | ⟨-, ds, hds, rfl⟩
  · exact hfield
  · have hfour : m.HasFourDigitYear := by
      by_contra hfour
      exact hyear ⟨m, hm, hfour⟩
    rw [String.toList_ofList, Moment.compact_eq_stamp hfour]
    exact Moment.isField_stamp ((isCivil_of_parseMoment hm).fits hfour)
  · rw [String.toList_ofList]
    have hzeros : IsField 6 (List.replicate 6 '0') := ⟨rfl, by simp⟩
    exact hds.isField.append hzeros

/-- A year with a sign is no timestamp and is not accepted. -/
theorem formatDate_of_namesFarYear (h : formatDate date = .ok r) (hyear : NamesFarYear date) :
    ¬ IsField 14 r.toList ∧ formatDate r = .error (.unsupportedDate r) := by
  obtain ⟨m, hm, hfour⟩ := hyear
  rw [formatDate_of_moment hm] at h
  obtain ⟨sign, ds, hcompact, hsign, hds⟩ := Moment.compact_signed hfour
  obtain rfl := Except.ok.inj h
  have htext : (String.ofList m.compact).toList = sign :: ds := by
    rw [String.toList_ofList, hcompact]
  have hdigit : sign.isDigit = false := by rcases hsign with rfl | rfl <;> rfl
  have hblank : Text.isBlank sign = false := by rcases hsign with rfl | rfl <;> rfl
  have hfield : ¬ IsField 14 (String.ofList m.compact).toList := by
    intro hfield
    rw [hfield.all_digits sign (by rw [htext]; exact List.mem_cons_self)] at hdigit
    cases hdigit
  have htrimmed : Text.IsTrimmed (String.ofList m.compact).toList := by
    rw [htext]
    exact ⟨⟨sign, ds, rfl, hblank⟩, hds.isTrimmed.2.reverse_append [sign]⟩
  have hnone : parseMoment (Text.trim (String.ofList m.compact)).toList = none := by
    rw [htrimmed.trim_eq, htext]
    exact parseMoment_signed hds hsign
  have hdashed : ¬ isDashed (String.ofList m.compact).toList := by
    intro hdashed
    obtain ⟨es, hes⟩ := isDashed_iff.mp hdashed
    obtain ⟨c, rest, heq, hc⟩ := hes.exists_cons
    rw [htext] at heq
    obtain rfl := (List.cons.inj heq).1
    rw [hc] at hdigit
    cases hdigit
  exact ⟨hfield, formatDate_of_not_dashed hnone hfield hdashed⟩

theorem isField_iff_of_formatDate (h : formatDate date = .ok r) :
    (IsField 14 r.toList ↔ ¬ NamesFarYear date) ∧
      (formatDate r = .ok r ↔ ¬ NamesFarYear date) := by
  by_cases hfar : NamesFarYear date
  · obtain ⟨hfield, hr⟩ := formatDate_of_namesFarYear h hfar
    simp [hfar, hfield, hr]
  · have hfield := isField_of_formatDate h hfar
    simp [hfar, hfield, formatDate_of_isField hfield]

/-- An accepted date is given as fourteen digits, and is accepted again as it is, exactly when it
does not name a moment in a year of other than four digits. So it is with both ends of the range
that a checked filter set has. -/
theorem accepted_isTimestamp_iff (date : String) (f : FilterSet) :
    (∀ r, formatDate date = .ok r →
      (IsField 14 r.toList ↔ ¬ NamesFarYear date) ∧
      (formatDate r = .ok r ↔ ¬ NamesFarYear date)) ∧
    ∀ v first last, f.validate = .ok v → v.window = .range first last →
      ∃ a b, FilterSet.Supplies f.startDate a ∧ FilterSet.Supplies f.endDate b ∧
        (IsField 14 first.toList ↔ ¬ NamesFarYear a) ∧
        (IsField 14 last.toList ↔ ¬ NamesFarYear b) := by
  refine ⟨fun r => isField_iff_of_formatDate, ?_⟩
  intro v first last hv hwindow
  obtain ⟨-, window, hw, rfl⟩ := FilterSet.validate_eq_ok.mp hv
  obtain rfl : window = .range first last := hwindow
  obtain _ | ⟨-, ha, hb, hfirst, hlast⟩ := hw
  exact ⟨_, _, ha, hb, (isField_iff_of_formatDate hfirst).1, (isField_iff_of_formatDate hlast).1⟩

/-- A year of five digits is accepted after a plus. -/
theorem formatDate_signed_year :
    formatDate "+12024-01-05" = .ok "+120240105000000" ∧
      formatDate "+120240105000000" = .error (.unsupportedDate "+120240105000000") :=
  ⟨rfl, rfl⟩

end NewsSearch
