import NewsSearch.Filter.Timespan
import Mathlib.Data.List.TakeWhile
import Mathlib.Tactic.SplitIfs

/-!
# The grammar of timespans

A timespan is digits and a unit. The number that the digits stand for is exact however many there
are, although it is read with 64 bits.
-/

namespace NewsSearch

/-- The ways to write a unit. -/
inductive TimespanUnit.Spelling : TimespanUnit → String → Prop
  | min : Spelling .minutes "min"
  | hour : Spelling .hours "h"
  | hours : Spelling .hours "hours"
  | day : Spelling .days "d"
  | days : Spelling .days "days"
  | week : Spelling .weeks "w"
  | weeks : Spelling .weeks "weeks"
  | month : Spelling .months "m"
  | months : Spelling .months "months"

theorem TimespanUnit.ofToken?_eq_some {token : String} {unit : TimespanUnit} :
    ofToken? token = some unit ↔ unit.Spelling token := by
  constructor
  · intro h
    unfold ofToken? at h
    split_ifs at h with hmin hhours hdays hweeks hmonths <;> cases h
    · exact hmin ▸ .min
    · rcases hhours with rfl | rfl <;> constructor
    · rcases hdays with rfl | rfl <;> constructor
    · rcases hweeks with rfl | rfl <;> constructor
    · rcases hmonths with rfl | rfl <;> constructor
  · intro h
    cases h <;> rfl

namespace Timespan

/-! ## Digits and letters -/

/-- Digits and then small letters, at least one of each. -/
structure Splits (text digits letters : String) : Prop where
  text_eq : text = digits ++ letters
  digits_ne : digits ≠ ""
  letters_ne : letters ≠ ""
  all_digits : ∀ c ∈ digits.toList, c.isDigit
  all_lower : ∀ c ∈ letters.toList, c.isLower

variable {text digits letters : String}

theorem not_isDigit_of_isLower {c : Char} (h : c.isLower) : ¬ c.isDigit := by
  intro hd
  have hlo : 'a'.val ≤ c.val := of_decide_eq_true (Bool.and_eq_true_iff.mp h).1
  have hhi : c.val ≤ '9'.val := of_decide_eq_true (Bool.and_eq_true_iff.mp hd).2
  exact absurd (UInt32.le_trans hlo hhi) (by decide)

theorem Splits.takeWhile_eq (h : Splits text digits letters) :
    text.toList.takeWhile Char.isDigit = digits.toList := by
  have hne := mt String.toList_eq_nil_iff.mp h.letters_ne
  obtain ⟨c, cs, hletters⟩ := List.exists_cons_of_ne_nil hne
  have hc := not_isDigit_of_isLower (h.all_lower c (hletters ▸ List.mem_cons_self))
  rw [h.text_eq, String.toList_append, List.takeWhile_append_of_pos h.all_digits, hletters,
    List.takeWhile_cons_of_neg hc, List.append_nil]

theorem Splits.dropWhile_eq (h : Splits text digits letters) :
    text.toList.dropWhile Char.isDigit = letters.toList := by
  have hsplit := List.takeWhile_append_dropWhile (p := Char.isDigit) (l := text.toList)
  rw [h.takeWhile_eq, h.text_eq, String.toList_append] at hsplit
  rw [h.text_eq, String.toList_append]
  exact List.append_cancel_left hsplit

/-- A text splits in one way at most. -/
theorem Splits.unique {digits' letters' : String} (h : Splits text digits letters)
    (h' : Splits text digits' letters') : digits = digits' ∧ letters = letters' :=
  ⟨String.toList_inj.mp (h.takeWhile_eq.symm.trans h'.takeWhile_eq),
    String.toList_inj.mp (h.dropWhile_eq.symm.trans h'.dropWhile_eq)⟩

theorem splits_takeWhile (hdigits : text.toList.takeWhile Char.isDigit ≠ [])
    (hletters : text.toList.dropWhile Char.isDigit ≠ [])
    (hlower : (text.toList.dropWhile Char.isDigit).all Char.isLower) :
    Splits text (String.ofList (text.toList.takeWhile Char.isDigit))
      (String.ofList (text.toList.dropWhile Char.isDigit)) where
  text_eq := by
    rw [← String.ofList_append, List.takeWhile_append_dropWhile, String.ofList_toList]
  digits_ne := by simpa [← String.toList_eq_nil_iff] using hdigits
  letters_ne := by simpa [← String.toList_eq_nil_iff] using hletters
  all_digits := by
    intro c hc
    rw [String.toList_ofList] at hc
    exact List.mem_takeWhile_imp hc
  all_lower := by
    intro c hc
    rw [String.toList_ofList] at hc
    exact List.all_eq_true.mp hlower c hc

/-! ## The least span -/

/-- The number of 64 bits is missing only if the exact number is large. -/
theorem isTooShort_iff (h : Splits text digits letters) :
    isTooShort digits.toList ↔ Text.digitsValue digits.toList < 60 := by
  have hdigits : Text.isDigits digits.toList := by
    unfold Text.isDigits
    rw [List.all_eq_true.mpr h.all_digits, Bool.and_true, Bool.not_eq_true',
      List.isEmpty_eq_false_iff]
    exact mt String.toList_eq_nil_iff.mp h.digits_ne
  have hmin : minMinutes.toNat = 60 := rfl
  unfold isTooShort
  rw [Option.any_eq_true]
  constructor
  · rintro ⟨n, hn, hlt⟩
    obtain ⟨-, hvalue⟩ := Text.word64?_eq_some.mp hn
    have hlt' := UInt64.lt_iff_toNat_lt.mp (decide_eq_true_eq.mp hlt)
    omega
  · intro hlt
    have hsize : 60 < UInt64.size := by decide
    have hfits : Text.digitsValue digits.toList < UInt64.size := by omega
    have hvalue : (Text.digitsValue digits.toList).toUInt64.toNat =
        Text.digitsValue digits.toList := by
      simpa using Nat.mod_eq_of_lt hfits
    refine ⟨_, Text.word64?_eq_some.mpr ⟨hdigits, hvalue.symm⟩, ?_⟩
    rw [decide_eq_true_eq, UInt64.lt_iff_toNat_lt]
    omega

/-! ## What a text comes to -/

/-- The outcomes of reading a timespan. -/
inductive Verdict (text : String) : Except FilterError Timespan → Prop
  | unparseable (h : ¬ ∃ digits letters, Splits text digits letters) :
      Verdict text (.error (.timespanUnparseable text))
  | unknownUnit {digits letters : String} (h : Splits text digits letters)
      (hunit : ∀ unit : TimespanUnit, ¬ unit.Spelling letters) :
      Verdict text (.error (.timespanUnit text letters))
  | tooShort {digits letters : String} (h : Splits text digits letters)
      (hunit : TimespanUnit.Spelling .minutes letters)
      (hvalue : Text.digitsValue digits.toList < 60) :
      Verdict text (.error (.timespanTooShort text))
  | accepted {digits letters : String} {unit : TimespanUnit} (h : Splits text digits letters)
      (hunit : unit.Spelling letters)
      (hvalue : unit = .minutes → 60 ≤ Text.digitsValue digits.toList) :
      Verdict text (.ok ⟨digits, unit, text⟩)

theorem verdict_parse (text : String) : Verdict text (parse text) := by
  unfold parse
  dsimp only
  split
  · rename_i hshape
    refine .unparseable ?_
    rintro ⟨digits, letters, h⟩
    simp only [h.takeWhile_eq, h.dropWhile_eq, List.isEmpty_iff, String.toList_eq_nil_iff,
      h.digits_ne, h.letters_ne, false_or] at hshape
    exact hshape (List.all_eq_true.mpr h.all_lower)
  · rename_i hshape
    simp only [List.isEmpty_iff, not_or, Decidable.not_not] at hshape
    have h := splits_takeWhile hshape.1 hshape.2.1 hshape.2.2
    split
    · rename_i hnone
      refine .unknownUnit h fun unit hunit => ?_
      rw [TimespanUnit.ofToken?_eq_some.mpr hunit] at hnone
      cases hnone
    · rename_i unit hsome
      have hunit := TimespanUnit.ofToken?_eq_some.mp hsome
      have hshort := isTooShort_iff h
      rw [String.toList_ofList] at hshort
      split
      · rename_i hmin
        obtain ⟨rfl, hlt⟩ := hmin
        exact .tooShort h hunit (by simpa using hshort.mp hlt)
      · rename_i hmin
        refine .accepted h hunit fun hu => ?_
        rw [String.toList_ofList]
        exact Nat.le_of_not_lt fun hlt => hmin ⟨hu, hshort.mpr hlt⟩

theorem spelling_unique {unit unit' : TimespanUnit} (h : unit.Spelling letters)
    (h' : unit'.Spelling letters) : unit = unit' :=
  Option.some.inj ((TimespanUnit.ofToken?_eq_some.mpr h).symm.trans
    (TimespanUnit.ofToken?_eq_some.mpr h'))

theorem Verdict.unique {r r' : Except FilterError Timespan} (h : Verdict text r)
    (h' : Verdict text r') : r = r' := by
  cases h with
  | unparseable hnone =>
    cases h' with
    | unparseable => rfl
    | unknownUnit h | tooShort h | accepted h => exact absurd ⟨_, _, h⟩ hnone
  | unknownUnit h hunit =>
    cases h' with
    | unparseable hnone => exact absurd ⟨_, _, h⟩ hnone
    | unknownUnit h' => rw [(h.unique h').2]
    | tooShort h' hunit' | accepted h' hunit' =>
      obtain ⟨-, rfl⟩ := h.unique h'
      exact absurd hunit' (hunit _)
  | tooShort h hunit hvalue =>
    cases h' with
    | unparseable hnone => exact absurd ⟨_, _, h⟩ hnone
    | unknownUnit h' hunit' =>
      obtain ⟨-, rfl⟩ := h.unique h'
      exact absurd hunit (hunit' _)
    | tooShort => rfl
    | accepted h' hunit' hvalue' =>
      obtain ⟨rfl, rfl⟩ := h.unique h'
      have hle := hvalue' (spelling_unique hunit' hunit)
      omega
  | accepted h hunit hvalue =>
    cases h' with
    | unparseable hnone => exact absurd ⟨_, _, h⟩ hnone
    | unknownUnit h' hunit' =>
      obtain ⟨-, rfl⟩ := h.unique h'
      exact absurd hunit (hunit' _)
    | tooShort h' hunit' hvalue' =>
      obtain ⟨rfl, rfl⟩ := h.unique h'
      have hle := hvalue (spelling_unique hunit hunit')
      omega
    | accepted h' hunit' =>
      obtain ⟨rfl, rfl⟩ := h.unique h'
      rw [spelling_unique hunit hunit']

theorem parse_eq_iff {r : Except FilterError Timespan} : parse text = r ↔ Verdict text r :=
  ⟨fun h => h ▸ verdict_parse text, fun h => (verdict_parse text).unique h⟩

/-- A timespan is digits and a spelling of a unit, and in minutes the exact number is at least
sixty. It keeps the digits and the text as they are. Any other text is refused for the first of
these that it misses. -/
theorem parse_decides (text : String) :
    (∀ t, parse text = .ok t ↔
      ∃ digits letters unit, Splits text digits letters ∧ unit.Spelling letters ∧
        (unit = .minutes → 60 ≤ Text.digitsValue digits.toList) ∧ t = ⟨digits, unit, text⟩) ∧
    (parse text = .error (.timespanUnparseable text) ↔
      ¬ ∃ digits letters, Splits text digits letters) ∧
    (∀ letters, parse text = .error (.timespanUnit text letters) ↔
      ∃ digits, Splits text digits letters ∧
        ∀ unit : TimespanUnit, ¬ unit.Spelling letters) ∧
    (parse text = .error (.timespanTooShort text) ↔
      ∃ digits letters, Splits text digits letters ∧ TimespanUnit.Spelling .minutes letters ∧
        Text.digitsValue digits.toList < 60) ∧
    ∀ e, parse text = .error e →
      e = .timespanUnparseable text ∨ (∃ letters, e = .timespanUnit text letters) ∨
        e = .timespanTooShort text := by
  simp only [parse_eq_iff]
  refine ⟨fun t => ⟨?_, ?_⟩, ⟨?_, ?_⟩, fun letters => ⟨?_, ?_⟩, ⟨?_, ?_⟩, ?_⟩
  · intro hv
    cases hv with
    | accepted h hunit hvalue => exact ⟨_, _, _, h, hunit, hvalue, rfl⟩
  · rintro ⟨digits, letters, unit, h, hunit, hvalue, rfl⟩
    exact .accepted h hunit hvalue
  · intro hv
    cases hv with
    | unparseable h => exact h
  · exact .unparseable
  · intro hv
    cases hv with
    | unknownUnit h hunit => exact ⟨_, h, hunit⟩
  · rintro ⟨digits, h, hunit⟩
    exact .unknownUnit h hunit
  · intro hv
    cases hv with
    | tooShort h hunit hvalue => exact ⟨_, _, h, hunit, hvalue⟩
  · rintro ⟨digits, letters, h, hunit, hvalue⟩
    exact .tooShort h hunit hvalue
  · intro e hv
    cases hv with
    | unparseable => exact .inl rfl
    | unknownUnit => exact .inr (.inl ⟨_, rfl⟩)
    | tooShort => exact .inr (.inr rfl)

end Timespan

end NewsSearch
