import NewsSearch.Decimal.Numeral
import Mathlib.Data.List.TakeWhile
import Mathlib.Tactic.Tauto

/-!
# The grammar of numerals

The ways to write a numeral, said without reading it, and that these are just the texts that are
read.
-/

namespace NewsSearch.Decimal

/-! ## Spellings -/

inductive IsSign : List Char → Prop
  | none : IsSign []
  | plus : IsSign ['+']
  | minus : IsSign ['-']

/-- An exponent with its mark, or none. -/
inductive IsExponent : List Char → Prop
  | none : IsExponent []
  | marked {mark : Char} {sign digits : List Char} (hmark : mark = 'e' ∨ mark = 'E')
      (hsign : IsSign sign) (hdigits : Text.isDigits digits) :
    IsExponent (mark :: (sign ++ digits))

/-- Digits with an optional point, of which at least one is left or right of it. -/
inductive IsDecimal : List Char → Prop
  | whole {digits exponent : List Char} (hdigits : Text.isDigits digits)
      (hexponent : IsExponent exponent) : IsDecimal (digits ++ exponent)
  | pointed {whole places exponent : List Char} (hwhole : ∀ c ∈ whole, c.isDigit)
      (hplaces : ∀ c ∈ places, c.isDigit) (hdigit : whole ≠ [] ∨ places ≠ [])
      (hexponent : IsExponent exponent) : IsDecimal (whole ++ '.' :: (places ++ exponent))

/-- The names of what is no finite number. -/
def words : List String := ["inf", "infinity", "nan"]

inductive IsNumeral : List Char → Prop
  | decimal {sign magnitude : List Char} (hsign : IsSign sign) (h : IsDecimal magnitude) :
    IsNumeral (sign ++ magnitude)
  | word {sign letters : List Char} {word : String} (hsign : IsSign sign) (hword : word ∈ words)
      (h : letters.map Char.toLower = word.toList) : IsNumeral (sign ++ letters)

/-! ## Signs -/

/-- Neither sign comes first. -/
def Unsigned (cs : List Char) : Prop := cs.head? ≠ some '-' ∧ cs.head? ≠ some '+'

instance (cs : List Char) : Decidable (Unsigned cs) := inferInstanceAs (Decidable (_ ∧ _))

theorem isSign_takeSign (cs : List Char) : ∃ sign, IsSign sign ∧ cs = sign ++ (takeSign cs).2 := by
  unfold takeSign
  split
  · exact ⟨['-'], .minus, rfl⟩
  · exact ⟨['+'], .plus, rfl⟩
  · exact ⟨[], .none, rfl⟩

theorem takeSign_append {sign cs : List Char} (hsign : IsSign sign) (hcs : Unsigned cs) :
    (takeSign (sign ++ cs)).2 = cs := by
  cases hsign with
  | plus | minus => rfl
  | none =>
    cases cs with
    | nil => rfl
    | cons c cs =>
      rw [List.nil_append]
      unfold takeSign
      split
      · exact absurd (congrArg List.head? ‹_›) hcs.1
      · exact absurd (congrArg List.head? ‹_›) hcs.2
      · rfl

theorem unsigned_digit {c : Char} (h : c.isDigit) (cs : List Char) : Unsigned (c :: cs) := by
  constructor <;> rintro ⟨⟩ <;> cases h

theorem isDigits_iff {cs : List Char} : Text.isDigits cs ↔ cs ≠ [] ∧ ∀ c ∈ cs, c.isDigit := by
  simp [Text.isDigits]

theorem unsigned_of_isDigits {cs : List Char} (h : Text.isDigits cs) (rest : List Char) :
    Unsigned (cs ++ rest) := by
  obtain ⟨hne, hdigits⟩ := isDigits_iff.mp h
  obtain ⟨c, cs, rfl⟩ := List.exists_cons_of_ne_nil hne
  exact unsigned_digit (hdigits c List.mem_cons_self) _

/-! ## Exponents -/

theorem isSome_readExponent {cs : List Char} : (readExponent cs).isSome ↔ IsExponent cs := by
  constructor
  · intro h
    unfold readExponent at h
    split at h
    · exact .none
    · rename_i mark cs
      split at h
      case isFalse => cases h
      case isTrue hmark =>
        dsimp only at h
        split at h
        case isFalse => cases h
        case isTrue hdigits =>
          obtain ⟨sign, hsign, hcs⟩ := isSign_takeSign cs
          rw [hcs]
          exact .marked hmark hsign hdigits
  · rintro (_ | ⟨hmark, hsign, hdigits⟩)
    · rfl
    · rw [readExponent, if_pos hmark]
      have hunsigned := unsigned_of_isDigits hdigits []
      rw [List.append_nil] at hunsigned
      simp [takeSign_append hsign hunsigned, hdigits]

/-- What follows the digits of a number is no digit. -/
def Undigited (cs : List Char) : Prop := ∀ c ∈ cs.head?, c.isDigit = false

theorem IsExponent.undigited {cs : List Char} (h : IsExponent cs) : Undigited cs := by
  rintro c hc
  cases h with
  | none => cases hc
  | marked hmark =>
    obtain rfl := Option.some.inj hc
    rcases hmark with rfl | rfl <;> rfl

theorem IsExponent.head_ne_point {cs : List Char} (h : IsExponent cs) : cs.head? ≠ some '.' := by
  cases h with
  | none => decide
  | marked hmark => rcases hmark with rfl | rfl <;> exact nofun

theorem takeWhile_digits {ds cs : List Char} (hds : ∀ c ∈ ds, c.isDigit) (hcs : Undigited cs) :
    (ds ++ cs).takeWhile Char.isDigit = ds ∧ (ds ++ cs).dropWhile Char.isDigit = cs := by
  rw [List.takeWhile_append_of_pos hds, List.dropWhile_append_of_pos hds]
  cases cs with
  | nil => simp
  | cons c cs => simp [hcs c rfl]

/-! ## Magnitudes -/

theorem undigited_dropWhile (cs : List Char) : Undigited (cs.dropWhile Char.isDigit) := by
  have hnot := List.head?_dropWhile_not Char.isDigit cs
  intro c hc
  rw [Option.mem_def.mp hc] at hnot
  exact hnot

/-- Up to the exponent, a magnitude is digits with a point or without one. -/
theorem split_magnitude (cs : List Char) :
    ∃ whole rest, cs = whole ++ rest ∧ (∀ c ∈ whole, c.isDigit) ∧
      (Undigited rest ∧ rest.head? ≠ some '.' ∨
        ∃ places exponent, rest = '.' :: (places ++ exponent) ∧ (∀ c ∈ places, c.isDigit) ∧
          Undigited exponent) := by
  refine ⟨_, _, List.takeWhile_append_dropWhile.symm, fun c => List.mem_takeWhile_imp, ?_⟩
  have hrest := undigited_dropWhile cs
  by_cases hpoint : (cs.dropWhile Char.isDigit).head? = some '.'
  · obtain ⟨more, hmore⟩ := List.head?_eq_some_iff.mp hpoint
    exact .inr ⟨_, _, by rw [hmore, List.takeWhile_append_dropWhile], fun c =>
      List.mem_takeWhile_imp, undigited_dropWhile more⟩
  · exact .inl ⟨hrest, hpoint⟩

theorem isSome_readMagnitude_whole {whole exponent : List Char} (hwhole : ∀ c ∈ whole, c.isDigit)
    (hexponent : Undigited exponent) (hpoint : exponent.head? ≠ some '.') :
    (readMagnitude (whole ++ exponent)).isSome ↔ whole ≠ [] ∧ IsExponent exponent := by
  obtain ⟨htake, hdrop⟩ := takeWhile_digits hwhole hexponent
  unfold readMagnitude
  rw [htake, hdrop, ← isSome_readExponent]
  dsimp only
  split
  · exact absurd rfl hpoint
  · by_cases hne : whole = [] <;> simp [hne]

theorem isSome_readMagnitude_pointed {whole places exponent : List Char}
    (hwhole : ∀ c ∈ whole, c.isDigit) (hplaces : ∀ c ∈ places, c.isDigit)
    (hexponent : Undigited exponent) :
    (readMagnitude (whole ++ '.' :: (places ++ exponent))).isSome ↔
      (whole ≠ [] ∨ places ≠ []) ∧ IsExponent exponent := by
  have hundigited : Undigited ('.' :: (places ++ exponent)) := by
    rintro c hc
    obtain rfl := Option.some.inj hc
    rfl
  obtain ⟨htake, hdrop⟩ := takeWhile_digits hwhole hundigited
  obtain ⟨htake', hdrop'⟩ := takeWhile_digits hplaces hexponent
  unfold readMagnitude
  rw [htake, hdrop, ← isSome_readExponent]
  simp only [htake', hdrop']
  by_cases hne : whole = [] <;> by_cases hne' : places = [] <;> simp [hne, hne']

theorem isSome_readMagnitude {cs : List Char} : (readMagnitude cs).isSome ↔ IsDecimal cs := by
  constructor
  · intro h
    obtain ⟨whole, rest, rfl, hwhole, hrest⟩ := split_magnitude cs
    rcases hrest with ⟨hrest, hpoint⟩ | ⟨places, exponent, rfl, hplaces, hexponent⟩
    · obtain ⟨hne, hexponent⟩ := (isSome_readMagnitude_whole hwhole hrest hpoint).mp h
      exact .whole (isDigits_iff.mpr ⟨hne, hwhole⟩) hexponent
    · obtain ⟨hdigit, hmarked⟩ := (isSome_readMagnitude_pointed hwhole hplaces hexponent).mp h
      exact .pointed hwhole hplaces hdigit hmarked
  · rintro (⟨hdigits, hexponent⟩ | ⟨hwhole, hplaces, hdigit, hexponent⟩)
    · obtain ⟨hne, hdigits⟩ := isDigits_iff.mp hdigits
      exact (isSome_readMagnitude_whole hdigits hexponent.undigited hexponent.head_ne_point).mpr
        ⟨hne, hexponent⟩
    · exact (isSome_readMagnitude_pointed hwhole hplaces hexponent.undigited).mpr
        ⟨hdigit, hexponent⟩

/-! ## Numerals -/

theorem IsDecimal.unsigned {cs : List Char} (h : IsDecimal cs) : Unsigned cs := by
  cases h with
  | whole hdigits _ => exact unsigned_of_isDigits hdigits _
  | @pointed whole _ _ hwhole _ _ _ =>
    cases whole with
    | nil => exact ⟨nofun, nofun⟩
    | cons c whole => exact unsigned_digit (hwhole c List.mem_cons_self) _

theorem unsigned_of_word {letters : List Char} {word : String} (hword : word ∈ words)
    (h : letters.map Char.toLower = word.toList) : Unsigned letters := by
  have hhead : ∀ w ∈ words, Unsigned w.toList := by simp [words, Unsigned]
  have hlower := hhead word hword
  rw [← h, Unsigned, List.head?_map] at hlower
  constructor <;> intro hsign <;> rw [hsign] at hlower
  · exact hlower.1 rfl
  · exact hlower.2 rfl

/-- The magnitude of a numeral, after its sign. -/
def magnitude? (cs : List Char) : Option Float :=
  let word := cs.map Char.toLower
  if word = "inf".toList ∨ word = "infinity".toList then some (1.0 / 0.0)
  else if word = "nan".toList then some (0.0 / 0.0)
  else readMagnitude cs

theorem isSome_magnitude? {cs : List Char} : (magnitude? cs).isSome ↔
    IsDecimal cs ∨ ∃ word ∈ words, cs.map Char.toLower = word.toList := by
  rw [← isSome_readMagnitude]
  simp only [magnitude?, words, List.mem_cons, List.not_mem_nil, or_false, exists_eq_or_imp,
    exists_eq_left]
  by_cases hinf : cs.map Char.toLower = "inf".toList ∨ cs.map Char.toLower = "infinity".toList
  · rw [if_pos hinf]
    exact iff_of_true rfl (.inr (hinf.imp_right .inl))
  · rw [if_neg hinf]
    by_cases hnan : cs.map Char.toLower = "nan".toList
    · rw [if_pos hnan]
      exact iff_of_true rfl (.inr (.inr (.inr hnan)))
    · rw [if_neg hnan]
      tauto

theorem readNumeral_of_ne_nil {s : String} (h : s.isEmpty = false) :
    readNumeral s = match magnitude? (takeSign s.toList).2 with
      | none => .error .invalid
      | some x => .ok (if (takeSign s.toList).1 then -x else x) := by
  rw [readNumeral, if_neg (by simp [h])]
  rfl

theorem exists_readNumeral_eq_ok {s : String} :
    (∃ x, readNumeral s = .ok x) ↔ (magnitude? (takeSign s.toList).2).isSome := by
  cases hempty : s.isEmpty with
  | true =>
    obtain rfl := String.isEmpty_iff.mp hempty
    simp [readNumeral, takeSign, magnitude?, readMagnitude]
  | false =>
    rw [readNumeral_of_ne_nil hempty]
    cases magnitude? (takeSign s.toList).2 <;> simp

/-- The texts that are read as numerals. -/
theorem readNumeral_eq_ok_iff {s : String} :
    (∃ x, readNumeral s = .ok x) ↔ IsNumeral s.toList := by
  rw [exists_readNumeral_eq_ok, isSome_magnitude?]
  constructor
  · intro h
    obtain ⟨sign, hsign, hcs⟩ := isSign_takeSign s.toList
    rw [hcs]
    rcases h with h | ⟨word, hword, h⟩
    · exact .decimal hsign h
    · exact .word hsign hword h
  · intro h
    generalize s.toList = cs at h
    cases h with
    | decimal hsign h =>
      rw [takeSign_append hsign h.unsigned]
      exact .inl h
    | word hsign hword h =>
      rw [takeSign_append hsign (unsigned_of_word hword h)]
      exact .inr ⟨_, hword, h⟩

end NewsSearch.Decimal
