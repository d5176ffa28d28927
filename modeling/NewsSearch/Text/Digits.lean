/-!
# Decimal digits

Whole numbers as strings of decimal digits. Reading a number's own digits gives the number back.
-/

namespace NewsSearch.Text

/-- The digits of a number, without leading zeros. -/
def decimal (n : Nat) : List Char := Nat.toDigits 10 n

/-- The number that digits stand for. -/
def digitsValue (digits : List Char) : Nat := Nat.ofDigitChars 10 digits 0

/-- Whether a text is one or more digits. -/
def isDigits (cs : List Char) : Bool := !cs.isEmpty && cs.all Char.isDigit

@[simp]
theorem digitsValue_decimal (n : Nat) : digitsValue (decimal n) = n := Nat.ofDigitChars_ten_toDigits

theorem isDigit_of_mem_decimal {n : Nat} {c : Char} (h : c ∈ decimal n) : c.isDigit :=
  Nat.isDigit_of_mem_toDigits (by decide) (by decide) h

theorem exists_decimal_eq_cons (n : Nat) : ∃ c cs, decimal n = c :: cs ∧ c.isDigit := by
  cases h : decimal n with
  | nil => exact absurd h Nat.toDigits_ne_nil
  | cons c cs => exact ⟨c, cs, rfl, isDigit_of_mem_decimal (by rw [h]; exact List.mem_cons_self)⟩

@[simp]
theorem isDigits_decimal (n : Nat) : isDigits (decimal n) = true := by
  obtain ⟨c, cs, h, -⟩ := exists_decimal_eq_cons n
  have hall : (decimal n).all Char.isDigit = true :=
    List.all_eq_true.mpr fun _ hc => isDigit_of_mem_decimal hc
  rw [isDigits, hall, h]
  rfl

/-! ## Words of 64 bits -/

/-- The number with one more digit, if it still fits 64 bits. -/
def pushDigit? (n : UInt64) (c : Char) : Option UInt64 :=
  let next := 10 * n.toNat + (c.toNat - '0'.toNat)
  if c.isDigit ∧ next < UInt64.size then some next.toUInt64 else none

/-- The number of 64 bits that digits stand for. It is given up at the first digit too many. -/
def word64? (digits : List Char) : Option UInt64 :=
  if digits.isEmpty then none else digits.foldlM pushDigit? 0

theorem le_ofDigitChars (digits : List Char) (n : Nat) : n ≤ Nat.ofDigitChars 10 digits n := by
  induction digits generalizing n with
  | nil => exact Nat.le_refl n
  | cons c cs ih =>
    have hnext := ih (10 * n + (c.toNat - '0'.toNat))
    rw [Nat.ofDigitChars_cons]
    omega

theorem foldlM_pushDigit?_eq_some {digits : List Char} {n m : UInt64} :
    digits.foldlM pushDigit? n = some m ↔
      digits.all Char.isDigit ∧ Nat.ofDigitChars 10 digits n.toNat = m.toNat := by
  induction digits generalizing n with
  | nil => simp [UInt64.toNat_inj]
  | cons c cs ih =>
    rw [List.foldlM_cons, Nat.ofDigitChars_cons, List.all_cons]
    by_cases hfits : c.isDigit ∧ 10 * n.toNat + (c.toNat - '0'.toNat) < UInt64.size
    · have hnext : (10 * n.toNat + (c.toNat - '0'.toNat)).toUInt64.toNat =
          10 * n.toNat + (c.toNat - '0'.toNat) := by
        simpa using Nat.mod_eq_of_lt hfits.2
      rw [pushDigit?, if_pos hfits, Option.bind_eq_bind, Option.bind_some, ih, hnext, hfits.1,
        Bool.true_and]
    · -- Either the character is no digit, or the number is too large from here on.
      rw [pushDigit?, if_neg hfits]
      constructor
      · intro h
        cases h
      · rintro ⟨hall, hvalue⟩
        have hle := le_ofDigitChars cs (10 * n.toNat + (c.toNat - '0'.toNat))
        have hlt := m.toNat_lt_size
        exact absurd ⟨(Bool.and_eq_true_iff.mp hall).1, by omega⟩ hfits

/-- The checks on the way agree with one check of the whole number. -/
theorem word64?_eq_some {digits : List Char} {n : UInt64} :
    word64? digits = some n ↔ isDigits digits ∧ digitsValue digits = n.toNat := by
  unfold word64? isDigits digitsValue
  cases digits with
  | nil => simp
  | cons c cs =>
    have hfold := @foldlM_pushDigit?_eq_some (c :: cs) 0 n
    simpa using hfold

/-! ## Fixed widths -/

/-- At least `width` digits, with zeros in front. -/
def padded (width n : Nat) : List Char :=
  List.replicate (width - (decimal n).length) '0' ++ decimal n

theorem isDigit_of_mem_padded {width n : Nat} {c : Char} (h : c ∈ padded width n) : c.isDigit := by
  rcases List.mem_append.mp h with h | h
  · rw [(List.mem_replicate.mp h).2]
    rfl
  · exact isDigit_of_mem_decimal h

@[simp]
theorem digitsValue_padded (width n : Nat) : digitsValue (padded width n) = n := by
  unfold digitsValue padded
  rw [Nat.ofDigitChars_append, Nat.ofDigitChars_replicate_zero, Nat.mul_zero]
  exact digitsValue_decimal n

/-- A number that fits the width is as wide. -/
theorem length_padded {width n : Nat} (hwidth : 0 < width) (h : n < Nat.pow 10 width) :
    (padded width n).length = width := by
  have hle : (decimal n).length ≤ width := (Nat.length_toDigits_le_iff (by decide) hwidth).mpr h
  simp only [padded, List.length_append, List.length_replicate]
  omega

end NewsSearch.Text
