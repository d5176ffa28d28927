import NewsSearch.Proofs.Decimal.Numeral
import NewsSearch.Proofs.Json.Printed

/-!
# The grammar of JSON text

Which texts are values, said without reading them. A lenient reader takes the characters of every
string and of every number. A strict one may find fault with some of them, a lone surrogate or a
number out of range, but never asks for more than they give.
-/

namespace NewsSearch.Json

open Decode

namespace Grammar

/-! ## Tokens -/

/-- No zero comes before another digit. -/
inductive IsWhole : List Char → Prop
  | zero : IsWhole ['0']
  | digits {c : Char} {cs : List Char} (hc : c.isDigit) (hne : c ≠ '0')
      (hcs : ∀ d ∈ cs, d.isDigit) : IsWhole (c :: cs)

inductive IsFraction : List Char → Prop
  | none : IsFraction []
  | places {ds : List Char} (h : Text.isDigits ds) : IsFraction ('.' :: ds)

inductive IsNumber : List Char → Prop
  | mk {sign whole fraction exponent : List Char} (hsign : sign = [] ∨ sign = ['-'])
      (hwhole : IsWhole whole) (hfraction : IsFraction fraction)
      (hexponent : Decimal.IsExponent exponent) :
    IsNumber (sign ++ (whole ++ (fraction ++ exponent)))

/-! ## Values -/

/-- A value, or what follows the bracket that opens a list or an object. -/
inductive Part
  | value
  | items
  | members

inductive IsText : Part → List Char → Prop
  | null : IsText .value "null".toList
  | true : IsText .value "true".toList
  | false : IsText .value "false".toList
  | number {cs : List Char} (h : IsNumber cs) : IsText .value cs
  | string {cs : List Char} (h : IsBody cs) : IsText .value ('"' :: (cs ++ ['"']))
  | emptyList {bs : List Char} (hbs : AreSpaces bs) : IsText .value ('[' :: (bs ++ [']']))
  | list {cs : List Char} (h : IsText .items cs) : IsText .value ('[' :: cs)
  | emptyObject {bs : List Char} (hbs : AreSpaces bs) : IsText .value ('{' :: (bs ++ ['}']))
  | object {cs : List Char} (h : IsText .members cs) : IsText .value ('{' :: cs)
  | lastItem {bs v bs₁ : List Char} (hbs : AreSpaces bs) (hv : IsText .value v)
      (hbs₁ : AreSpaces bs₁) : IsText .items (bs ++ (v ++ (bs₁ ++ [']'])))
  | item {bs v bs₁ cs : List Char} (hbs : AreSpaces bs) (hv : IsText .value v)
      (hbs₁ : AreSpaces bs₁) (h : IsText .items cs) :
    IsText .items (bs ++ (v ++ (bs₁ ++ ',' :: cs)))
  | lastMember {bs key bs₁ bs₂ v bs₃ : List Char} (hbs : AreSpaces bs) (hkey : IsBody key)
      (hbs₁ : AreSpaces bs₁) (hbs₂ : AreSpaces bs₂) (hv : IsText .value v)
      (hbs₃ : AreSpaces bs₃) :
    IsText .members (bs ++ '"' :: (key ++ '"' :: (bs₁ ++ ':' :: (bs₂ ++ (v ++ (bs₃ ++ ['}']))))))
  | member {bs key bs₁ bs₂ v bs₃ cs : List Char} (hbs : AreSpaces bs) (hkey : IsBody key)
      (hbs₁ : AreSpaces bs₁) (hbs₂ : AreSpaces bs₂) (hv : IsText .value v)
      (hbs₃ : AreSpaces bs₃) (h : IsText .members cs) :
    IsText .members
      (bs ++ '"' :: (key ++ '"' :: (bs₁ ++ ':' :: (bs₂ ++ (v ++ (bs₃ ++ ',' :: cs))))))

end Grammar

/-! ## Characters of a number -/

open Grammar

namespace NumberReader

/-- The reader after some characters of a number; none if the number ended before one of them. -/
def walk (strict : Bool) (n : NumberReader) : List Char → Except Cause (Option NumberReader)
  | [] => .ok (some n)
  | c :: cs =>
    match n.step strict c with
    | .ok (some n) => walk strict n cs
    | r => r

/-- The characters lead to such a reader. A strict reader may find one of them at fault instead. -/
def Takes (strict : Bool) (n : NumberReader) (cs : List Char) (P : NumberReader → Prop) : Prop :=
  (∃ n', n.walk strict cs = .ok (some n') ∧ P n') ∨
    strict = true ∧ ∃ e, n.walk strict cs = .error e

variable {strict : Bool} {n : NumberReader} {P Q : NumberReader → Prop}

theorem takes_nil (h : P n) : Takes strict n [] P := .inl ⟨n, rfl, h⟩

theorem Takes.imp {cs : List Char} (h : Takes strict n cs P) (hPQ : ∀ n', P n' → Q n') :
    Takes strict n cs Q := by
  rcases h with ⟨n', hn, hP⟩ | hfault
  · exact .inl ⟨n', hn, hPQ n' hP⟩
  · exact .inr hfault

theorem Takes.append {cs ds : List Char} (h : Takes strict n cs P)
    (h' : ∀ n', P n' → Takes strict n' ds Q) : Takes strict n (cs ++ ds) Q := by
  induction cs generalizing n with
  | nil =>
    rcases h with ⟨n', hn, hP⟩ | ⟨-, e, he⟩
    · cases hn
      exact h' n hP
    · cases he
  | cons c cs ih =>
    unfold Takes at h ih ⊢
    rw [walk] at h
    rw [List.cons_append, walk]
    cases hstep : n.step strict c with
    | error e =>
      rw [hstep] at h
      rcases h with ⟨_, ⟨⟩, -⟩ | ⟨hstrict, -⟩
      exact .inr ⟨hstrict, e, rfl⟩
    | ok o =>
      rw [hstep] at h
      cases o with
      | none => exact absurd h (by rintro (⟨_, ⟨⟩, -⟩ | ⟨-, _, ⟨⟩⟩))
      | some n' => exact ih h

theorem takes_cons {n' : NumberReader} {c : Char} {cs : List Char}
    (h : n.step strict c = .ok (some n')) (h' : Takes strict n' cs P) :
    Takes strict n (c :: cs) P := by
  unfold Takes walk
  rw [h]
  exact h'

theorem takes_fault {c : Char} {e : Cause} (cs : List Char) (hstrict : strict = true)
    (h : n.step strict c = .error e) : Takes strict n (c :: cs) P := by
  refine .inr ⟨hstrict, e, ?_⟩
  rw [walk, h]

/-- Among digits of one kind, where more of them may follow. -/
inductive Place
  | whole
  | places
  | power

def place? (n : NumberReader) : Option Place :=
  match n.phase with
  | .whole | .wholeFull => some .whole
  | .decimals | .decimalsFull => some .places
  | .exponent => some .power
  | _ => none

theorem digit?_of_isDigit {c : Char} (h : c.isDigit) : digit? c = some (c.toNat - 48) := by
  rw [digit?, if_pos h]

theorem takes_addPower {c : Char} {d : Nat} (h : n.step strict c = n.addPower strict d) :
    Takes strict n [c] fun n' => n'.place? = some .power := by
  by_cases hfault : strict ∧ maxPower < n.power * 10 + d ∧ n.significand ≠ 0 ∧ ¬ n.powerNegative
  · refine takes_fault [] hfault.1 (e := .numberOutOfRange) ?_
    rw [h, addPower, if_pos hfault]
  · have hnext : n.step strict c =
        .ok (some { n with phase := .exponent, power := n.power * 10 + d }) := by
      rw [h, addPower, if_neg hfault]
    exact takes_cons hnext (takes_nil rfl)

theorem takes_addDecimal {c : Char} {d : Nat} (h : n.step strict c = .ok (some (n.addDecimal d))) :
    Takes strict n [c] fun n' => n'.place? = some .places := by
  refine takes_cons h (takes_nil ?_)
  unfold addDecimal
  split <;> rfl

/-- More digits of the same kind. -/
theorem takes_digit {p : Place} (h : n.place? = some p) {c : Char} (hc : c.isDigit) :
    Takes strict n [c] fun n' => n'.place? = some p := by
  have hd := digit?_of_isDigit hc
  unfold place? at h
  cases hp : n.phase <;> rw [hp] at h <;> cases h
  case exponent => exact takes_addPower (by simp [step, hp, hd]; rfl)
  case decimals => exact takes_addDecimal (by simp [step, hp, hd]; rfl)
  case decimalsFull =>
    exact takes_cons (by simp [step, hp, hd]; rfl) (takes_nil (by simp [place?, hp]))
  case wholeFull =>
    exact takes_cons (by simp [step, hp, hd]; rfl) (takes_nil (by simp [place?]))
  case whole =>
    by_cases hfits : n.significand * 10 + (c.toNat - 48) < significandLimit
    · exact takes_cons (by simp [step, hp, hd, hfits]; rfl) (takes_nil (by simp [place?]))
    · exact takes_cons (by simp [step, hp, hd, hfits]; rfl) (takes_nil (by simp [place?]))

theorem takes_digits {p : Place} (h : n.place? = some p) {ds : List Char}
    (hds : ∀ c ∈ ds, c.isDigit) : Takes strict n ds fun n' => n'.place? = some p := by
  induction ds generalizing n with
  | nil => exact takes_nil h
  | cons c ds ih =>
    obtain ⟨hc, hds⟩ := List.forall_mem_cons.mp hds
    exact (takes_digit h hc).append fun n' hn' => ih hn' hds

/-- After the whole part of a number. -/
def PastWhole (n : NumberReader) : Prop := n.phase = .zero ∨ n.place? = some .whole

theorem isComplete_of_place? {p : Place} (h : n.place? = some p) : n.isComplete := by
  unfold place? at h
  unfold isComplete
  cases hp : n.phase <;> simp_all

theorem PastWhole.isComplete (h : n.PastWhole) : n.isComplete := by
  rcases h with h | h
  · simp [NumberReader.isComplete, h]
  · exact isComplete_of_place? h

theorem PastWhole.step_eq (h : n.PastWhole) {c : Char} (hc : digit? c = none) :
    n.step strict c = .ok (n.pointOrMark c) := by
  unfold PastWhole place? at h
  cases hp : n.phase <;> simp_all [step]

/-- Digits after a character that asks for one. -/
theorem takes_isDigits {p : Place} {ds : List Char} (hds : Text.isDigits ds)
    (h : ∀ c, c.isDigit → Takes strict n [c] fun n' => n'.place? = some p) :
    Takes strict n ds fun n' => n'.place? = some p := by
  obtain ⟨hne, hdigits⟩ := Decimal.isDigits_iff.mp hds
  obtain ⟨c, ds, rfl⟩ := List.exists_cons_of_ne_nil hne
  obtain ⟨hc, hdigits⟩ := List.forall_mem_cons.mp hdigits
  exact (h c hc).append fun n' hn' => takes_digits hn' hdigits

theorem takes_fraction {cs : List Char} (hcs : IsFraction cs) (h : n.PastWhole) :
    Takes strict n cs fun n' => n'.PastWhole ∨ n'.place? = some .places := by
  cases hcs with
  | none => exact takes_nil (.inl h)
  | places hds =>
    have hpoint : n.step strict '.' = .ok (some { n with phase := .point }) := h.step_eq rfl
    have hplaces : Takes strict { n with phase := .point } _ fun n' => n'.place? = some .places :=
      takes_isDigits hds fun c hc => takes_addDecimal (by simp [step, digit?_of_isDigit hc]; rfl)
    exact takes_cons hpoint (hplaces.imp fun _ => .inr)

theorem step_mark (h : n.PastWhole ∨ n.place? = some .places) {c : Char} (hc : c = 'e' ∨ c = 'E') :
    n.step strict c = .ok (some { n with phase := .mark }) := by
  have hdigit : digit? c = none := by rcases hc with rfl | rfl <;> rfl
  have hpoint : c ≠ '.' := by rcases hc with rfl | rfl <;> decide
  rcases h with h | h
  · rw [h.step_eq hdigit, pointOrMark, if_neg hpoint, if_pos hc]
  · unfold place? at h
    cases hp : n.phase <;> simp_all [step, markOnly]

theorem takes_power {n : NumberReader} {ds : List Char} (hds : Text.isDigits ds)
    (h : n.phase = .mark ∨ n.phase = .sign) : Takes strict n ds fun n' => n'.isComplete := by
  have hpower : Takes strict n ds fun n' => n'.place? = some .power := by
    refine takes_isDigits hds fun c hc => takes_addPower (d := c.toNat - 48) ?_
    rcases h with h | h <;> simp [step, h, digit?_of_isDigit hc]
  exact hpower.imp fun _ => isComplete_of_place?

theorem takes_exponent {cs : List Char} (hcs : Decimal.IsExponent cs)
    (h : n.PastWhole ∨ n.place? = some .places) : Takes strict n cs fun n' => n'.isComplete := by
  cases hcs with
  | none => exact takes_nil (h.elim PastWhole.isComplete isComplete_of_place?)
  | marked hmark hsign hdigits =>
    refine takes_cons (step_mark h hmark) ?_
    cases hsign with
    | none => exact takes_power hdigits (.inl rfl)
    | plus => exact takes_cons rfl (takes_power hdigits (.inr rfl))
    | minus => exact takes_cons rfl (takes_power hdigits (.inr rfl))

/-- A number after its first digit, which may stand after a minus. -/
theorem takes_whole {c : Char} {cs : List Char} (h : IsWhole (c :: cs)) (negative : Bool) :
    ∃ d, digit? c = some d ∧ Takes strict (start negative d) cs PastWhole := by
  cases h with
  | zero => exact ⟨0, rfl, takes_nil (.inl rfl)⟩
  | digits hc hne hcs =>
    refine ⟨_, digit?_of_isDigit hc, ?_⟩
    have hpos : c.toNat - 48 ≠ 0 := by
      intro hzero
      have hle : 48 ≤ c.toNat := by
        simp only [Char.isDigit, Bool.and_eq_true, decide_eq_true_eq] at hc
        exact hc.1
      exact hne (Char.ext (UInt32.toNat_inj.mp (by change c.toNat = 48; omega)))
    have hplace : (start negative (c.toNat - 48)).place? = some .whole := by
      simp [place?, start, hpos]
    exact (takes_digits hplace hcs).imp fun _ => .inr

variable (strict) in
/-- Where the characters of a number lead, after the first. -/
theorem takes_number {cs : List Char} (h : IsNumber cs) :
    (∃ cs', cs = '-' :: cs' ∧ Takes strict minus cs' fun n => n.isComplete) ∨
      ∃ c cs' d, cs = c :: cs' ∧ digit? c = some d ∧
        Takes strict (start false d) cs' fun n => n.isComplete := by
  cases h with
  | @mk sign whole fraction exponent hsign hwhole hfraction hexponent =>
    obtain ⟨c, ws, rfl⟩ : ∃ c ws, whole = c :: ws := by
      cases hwhole with
      | zero => exact ⟨_, _, rfl⟩
      | digits _ _ _ => exact ⟨_, _, rfl⟩
    have htail (negative : Bool) : ∃ d, digit? c = some d ∧
        Takes strict (start negative d) (ws ++ (fraction ++ exponent)) fun n => n.isComplete := by
      obtain ⟨d, hd, hws⟩ := takes_whole hwhole negative
      exact ⟨d, hd, hws.append fun _ hn => (takes_fraction hfraction hn).append fun _ hn' =>
        takes_exponent hexponent hn'⟩
    rcases hsign with rfl | rfl
    · obtain ⟨d, hd, hrest⟩ := htail false
      exact .inr ⟨c, _, d, rfl, hd, hrest⟩
    · obtain ⟨d, hd, hrest⟩ := htail true
      exact .inl ⟨_, rfl, takes_cons (by simp [step, minus, hd]) hrest⟩

end NumberReader

end NewsSearch.Json
