import NewsSearch.Calendar.Moment
import Mathlib.Tactic.SplitIfs

/-!
# Counting days and minutes

Days are numbered through all years by the lengths of the years and months, and minutes through all
days. The number of a date names it. So whether the clock that an offset moves carries or borrows,
the moment it leads to is the one with the right number of minutes.
-/

namespace NewsSearch

namespace Moment

/-- The date and the time of day exist, in whatever year. -/
structure IsCivil (m : Moment) : Prop where
  month_pos : 1 ≤ m.month
  month_le : m.month ≤ 12
  day_pos : 1 ≤ m.day
  day_le : m.day ≤ monthLength m.year m.month
  hour_le : m.hour ≤ 23
  minute_le : m.minute ≤ 59
  second_le : m.second ≤ 60

/-- The days from 1 January of year 0 to 1 January of a year: there is a leap year every four years,
not every hundred, but every four hundred. -/
def daysBeforeYear (year : Int) : Int :=
  365 * year + (year + 3) / 4 - (year + 99) / 100 + (year + 399) / 400

example : daysBeforeYear 1970 = 719528 := by decide

/-- The days of the year before a month. -/
def daysBeforeMonth (year : Int) : (month : Nat) → Nat
  | 0 => 0
  | 1 => 0
  | month + 2 => daysBeforeMonth year (month + 1) + monthLength year (month + 1)

def dayNumber (m : Moment) : Int := daysBeforeYear m.year + daysBeforeMonth m.year m.month + m.day

/-- The minutes from the start of year 0. -/
def minuteNumber (m : Moment) : Int := m.dayNumber * 1440 + m.hour * 60 + m.minute

variable {m : Moment}

theorem isValid_iff : m.isValid ↔ minYear ≤ m.year ∧ m.year ≤ maxYear ∧ m.IsCivil := by
  simp only [isValid, Bool.and_eq_true, decide_eq_true_eq]
  constructor
  · rintro ⟨⟨⟨⟨⟨⟨⟨⟨hmin, hmax⟩, hm⟩, hm'⟩, hd⟩, hd'⟩, hh⟩, hmi⟩, hs⟩
    exact ⟨hmin, hmax, hm, hm', hd, hd', hh, hmi, hs⟩
  · rintro ⟨hmin, hmax, hm, hm', hd, hd', hh, hmi, hs⟩
    exact ⟨⟨⟨⟨⟨⟨⟨⟨hmin, hmax⟩, hm⟩, hm'⟩, hd⟩, hd'⟩, hh⟩, hmi⟩, hs⟩

/-! ## Months and years -/

theorem monthLength_bounds (year : Int) (month : Nat) :
    28 ≤ monthLength year month ∧ monthLength year month ≤ 31 := by
  unfold monthLength
  split_ifs <;> omega

@[simp] theorem monthLength_december (year : Int) : monthLength year 12 = 31 := rfl

theorem daysBeforeMonth_succ (year : Int) {month : Nat} (h : 1 ≤ month) :
    daysBeforeMonth year (month + 1) = daysBeforeMonth year month + monthLength year month := by
  obtain ⟨k, rfl⟩ := Nat.exists_eq_add_of_le' h
  rfl

theorem isLeapYear_iff (year : Int) :
    isLeapYear year ↔ year % 4 = 0 ∧ (year % 100 ≠ 0 ∨ year % 400 = 0) := by
  simp [isLeapYear]

theorem daysBeforeMonth_december (year : Int) :
    daysBeforeMonth year 12 = if isLeapYear year then 335 else 334 := by
  have hfeb : monthLength year 2 = if isLeapYear year then 29 else 28 := rfl
  simp only [daysBeforeMonth, hfeb]
  split <;> rfl

/-- A year is as long as its months. -/
theorem daysBeforeYear_succ (year : Int) :
    daysBeforeYear (year + 1) = daysBeforeYear year + daysBeforeMonth year 12 + 31 := by
  rw [daysBeforeMonth_december]
  have hleap := isLeapYear_iff year
  unfold daysBeforeYear
  split
  · have := hleap.mp ‹_›
    omega
  · have := mt hleap.mpr ‹_›
    omega

theorem daysBeforeYear_le {a b : Int} (h : a ≤ b) : daysBeforeYear a ≤ daysBeforeYear b := by
  unfold daysBeforeYear
  omega

theorem daysBeforeMonth_le (year : Int) {a b : Nat} (h : a ≤ b) :
    daysBeforeMonth year a ≤ daysBeforeMonth year b := by
  induction h with
  | refl => exact Nat.le_refl _
  | @step b hab ih =>
    cases b with
    | zero => simpa [daysBeforeMonth] using ih
    | succ b =>
      calc daysBeforeMonth year a ≤ daysBeforeMonth year (b + 1) := ih
        _ ≤ daysBeforeMonth year (b + 1) + monthLength year (b + 1) := Nat.le_add_right _ _
        _ = daysBeforeMonth year (b + 1 + 1) := (daysBeforeMonth_succ year (by omega)).symm

/-! ## The day before and the day after -/

theorem IsCivil.dayAfter (h : m.IsCivil) : m.dayAfter.IsCivil := by
  obtain ⟨hm, hm', hd, hd', hh, hmi, hs⟩ := h
  unfold Moment.dayAfter
  split
  · exact ⟨hm, hm', by simp, by simpa using ‹_›, hh, hmi, hs⟩
  · split
    · have hlen := (monthLength_bounds m.year (m.month + 1)).1
      exact ⟨by simp, by dsimp only; omega, by simp, by dsimp only; omega, hh, hmi, hs⟩
    · have hlen := (monthLength_bounds (m.year + 1) 1).1
      exact ⟨by simp, by simp, by simp, by dsimp only; omega, hh, hmi, hs⟩

theorem IsCivil.dayBefore (h : m.IsCivil) : m.dayBefore.IsCivil := by
  obtain ⟨hm, hm', hd, hd', hh, hmi, hs⟩ := h
  unfold Moment.dayBefore
  split
  · exact ⟨hm, hm', by dsimp only; omega, by dsimp only; omega, hh, hmi, hs⟩
  · split
    · have hlen := (monthLength_bounds m.year (m.month - 1)).1
      exact ⟨by dsimp only; omega, by dsimp only; omega, by dsimp only; omega, Nat.le_refl _,
        hh, hmi, hs⟩
    · exact ⟨by simp, by simp, by simp, by simp, hh, hmi, hs⟩

theorem dayNumber_dayAfter (h : m.IsCivil) : m.dayAfter.dayNumber = m.dayNumber + 1 := by
  obtain ⟨hm, hm', hd, hd', -⟩ := h
  unfold dayAfter dayNumber
  split
  · dsimp only
    omega
  · split
    · dsimp only
      rw [daysBeforeMonth_succ m.year hm]
      omega
    · -- The last day of December, so the year carries.
      have hmonth : m.month = 12 := by omega
      have hyear := daysBeforeYear_succ m.year
      rw [hmonth, monthLength_december] at hd'
      dsimp only
      rw [hmonth, hyear, daysBeforeMonth]
      simp only [hmonth, monthLength_december] at *
      omega

theorem dayNumber_dayBefore (h : m.IsCivil) : m.dayBefore.dayNumber = m.dayNumber - 1 := by
  obtain ⟨hm, hm', hd, hd', -⟩ := h
  unfold dayBefore dayNumber
  split
  · dsimp only
    omega
  · split
    · have hmonth := daysBeforeMonth_succ m.year (show 1 ≤ m.month - 1 by omega)
      rw [Nat.sub_add_cancel hm] at hmonth
      dsimp only
      omega
    · have hmonth : m.month = 1 := by omega
      have hyear := daysBeforeYear_succ (m.year - 1)
      rw [Int.sub_add_cancel] at hyear
      dsimp only
      rw [hmonth, hyear, daysBeforeMonth.eq_2]
      omega

/-! ## The number of a date names it -/

theorem IsCivil.dayNumber_bounds (h : m.IsCivil) :
    daysBeforeYear m.year + daysBeforeMonth m.year m.month < m.dayNumber ∧
      m.dayNumber ≤ daysBeforeYear m.year + daysBeforeMonth m.year (m.month + 1) := by
  obtain ⟨hm, -, hd, hd', -⟩ := h
  rw [daysBeforeMonth_succ m.year hm]
  unfold dayNumber
  omega

theorem IsCivil.lt_daysBeforeYear (h : m.IsCivil) :
    daysBeforeYear m.year < m.dayNumber ∧ m.dayNumber ≤ daysBeforeYear (m.year + 1) := by
  obtain ⟨hlt, hle⟩ := h.dayNumber_bounds
  have hyear := daysBeforeYear_succ m.year
  have hlast := daysBeforeMonth_le m.year (show m.month + 1 ≤ 12 + 1 by have := h.month_le; omega)
  have hdecember := daysBeforeMonth_succ m.year (show 1 ≤ 12 by decide)
  rw [monthLength_december] at hdecember
  omega

theorem date_eq_of_dayNumber {a b : Moment} (ha : a.IsCivil) (hb : b.IsCivil)
    (h : a.dayNumber = b.dayNumber) : a.year = b.year ∧ a.month = b.month ∧ a.day = b.day := by
  -- From the top down: the days of another year or month are all before or all after.
  have hyear : a.year = b.year := by
    have hya := ha.lt_daysBeforeYear
    have hyb := hb.lt_daysBeforeYear
    rcases Int.lt_trichotomy a.year b.year with hlt | heq | hlt
    · have := daysBeforeYear_le (show a.year + 1 ≤ b.year by omega)
      omega
    · exact heq
    · have := daysBeforeYear_le (show b.year + 1 ≤ a.year by omega)
      omega
  have hmonth : a.month = b.month := by
    have hma := ha.dayNumber_bounds
    have hmb := hb.dayNumber_bounds
    rw [hyear] at hma
    rcases Nat.lt_trichotomy a.month b.month with hlt | heq | hlt
    · have := daysBeforeMonth_le b.year (show a.month + 1 ≤ b.month by omega)
      omega
    · exact heq
    · have := daysBeforeMonth_le b.year (show b.month + 1 ≤ a.month by omega)
      omega
  refine ⟨hyear, hmonth, ?_⟩
  unfold dayNumber at h
  rw [hyear, hmonth] at h
  omega

theorem eq_of_minuteNumber {a b : Moment} (ha : a.IsCivil) (hb : b.IsCivil)
    (h : a.minuteNumber = b.minuteNumber) (hs : a.second = b.second) : a = b := by
  obtain ⟨-, -, -, -, hah, ham, -⟩ := id ha
  obtain ⟨-, -, -, -, hbh, hbm, -⟩ := id hb
  unfold minuteNumber at h
  obtain ⟨hyear, hmonth, hday⟩ := date_eq_of_dayNumber ha hb (by omega)
  have hhour : a.hour = b.hour := by omega
  have hminute : a.minute = b.minute := by omega
  cases a
  cases b
  simp_all

/-! ## Moving the clock -/

theorem dayBefore_clock (m : Moment) :
    m.dayBefore.hour = m.hour ∧ m.dayBefore.minute = m.minute ∧ m.dayBefore.second = m.second := by
  unfold dayBefore
  split_ifs <;> exact ⟨rfl, rfl, rfl⟩

theorem dayAfter_clock (m : Moment) :
    m.dayAfter.hour = m.hour ∧ m.dayAfter.minute = m.minute ∧ m.dayAfter.second = m.second := by
  unfold dayAfter
  split_ifs <;> exact ⟨rfl, rfl, rfl⟩

/-- The moment some minutes earlier exists, and is that many minutes earlier. -/
theorem minusMinutes_spec (h : m.IsCivil) {minutes : Int} (hlo : -1440 < minutes)
    (hhi : minutes < 1440) :
    (m.minusMinutes minutes).IsCivil ∧
      (m.minusMinutes minutes).minuteNumber = m.minuteNumber - minutes ∧
      (m.minusMinutes minutes).second = m.second := by
  obtain ⟨hm, hm', hd, hd', hh, hmi, hs⟩ := id h
  -- The clock goes round, and where it would leave the day the date moves instead.
  generalize htotal : (m.hour * 60 + m.minute - minutes : Int) = total
  generalize hclock : (total % 1440).toNat = clock
  generalize hmoved : ({ m with hour := clock / 60, minute := clock % 60 } : Moment) = moved
  have hcivil : moved.IsCivil := by
    rw [← hmoved]
    exact ⟨hm, hm', hd, hd', by dsimp only; omega, by dsimp only; omega, hs⟩
  have hday : moved.dayNumber = m.dayNumber := by rw [← hmoved]; rfl
  have htime : (moved.hour * 60 + moved.minute : Int) = total % 1440 := by
    rw [← hmoved]
    dsimp only
    omega
  have hsecond : moved.second = m.second := by rw [← hmoved]
  have hresult : m.minusMinutes minutes =
      if total < 0 then moved.dayBefore else if 1440 ≤ total then moved.dayAfter else moved := by
    simp only [minusMinutes, htotal, hclock, hmoved]
  rw [hresult]
  split_ifs
  · obtain ⟨hhour, hminute, hsec⟩ := dayBefore_clock moved
    have hnumber := dayNumber_dayBefore hcivil
    refine ⟨hcivil.dayBefore, ?_, hsec.trans hsecond⟩
    unfold minuteNumber
    rw [hhour, hminute]
    omega
  · obtain ⟨hhour, hminute, hsec⟩ := dayAfter_clock moved
    have hnumber := dayNumber_dayAfter hcivil
    refine ⟨hcivil.dayAfter, ?_, hsec.trans hsecond⟩
    unfold minuteNumber
    rw [hhour, hminute]
    omega
  · refine ⟨hcivil, ?_, hsecond⟩
    unfold minuteNumber
    omega

theorem minusMinutes_zero (h : m.IsCivil) : m.minusMinutes 0 = m := by
  obtain ⟨hcivil, hnumber, hsecond⟩ := minusMinutes_spec h (show -1440 < (0 : Int) by decide)
    (by decide)
  exact eq_of_minuteNumber hcivil h (by rw [hnumber, Int.sub_zero]) hsecond

end Moment

end NewsSearch
