import NewsSearch.Json.NumberReader
import NewsSearch.Json.StringReader

/-!
# The characters of numbers and strings

What one character can do to a number or to a string that is being read: which characters take it
on, and where in the character a fault is.
-/

namespace NewsSearch.Json

/-! ## Numbers -/

namespace NumberReader

theorem isDigit_of_digit? {c : Char} {d : Nat} (h : digit? c = some d) : c.isDigit := by
  unfold digit? at h
  split at h
  · assumption
  · cases h

theorem pointOrMark_eq_some {n n' : NumberReader} {c : Char} (h : n.pointOrMark c = some n') :
    (c = '.' ∨ c = 'e' ∨ c = 'E') ∧ n'.isComplete = false := by
  unfold pointOrMark at h
  split at h
  · cases h
    exact ⟨.inl ‹_›, rfl⟩
  · split at h
    · cases h
      exact ⟨.inr ‹_›, rfl⟩
    · cases h

theorem markOnly_eq_some {n n' : NumberReader} {c : Char} (h : n.markOnly c = some n') :
    (c = 'e' ∨ c = 'E') ∧ n'.isComplete = false := by
  unfold markOnly at h
  split at h
  · cases h
    exact ⟨‹_›, rfl⟩
  · cases h

/-- A number may not end after a character that is no digit, and an exponent mark stands where it
may end. -/
theorem step_not_digit {strict : Bool} {n n' : NumberReader} {c : Char}
    (hd : digit? c = none) (h : n.step strict c = .ok (some n')) :
    n'.isComplete = false ∧
      (c = '.' ∨ c = '+' ∨ c = '-' ∨ ((c = 'e' ∨ c = 'E') ∧ n.isComplete)) := by
  simp only [step, hd] at h
  split at h
  case h_4 hp _ | h_6 hp _ | h_8 hp _ =>
    obtain ⟨hc | hc, hn⟩ := pointOrMark_eq_some (Except.ok.inj h)
    · exact ⟨hn, .inl hc⟩
    · exact ⟨hn, .inr (.inr (.inr ⟨hc, by simp [isComplete, hp]⟩))⟩
  case h_12 hp _ | h_14 hp _ =>
    obtain ⟨hc, hn⟩ := markOnly_eq_some (Except.ok.inj h)
    exact ⟨hn, .inr (.inr (.inr ⟨hc, by simp [isComplete, hp]⟩))⟩
  case h_16 =>
    split at h
    · cases h
      exact ⟨rfl, .inr (.inl ‹_›)⟩
    · split at h
      · cases h
        exact ⟨rfl, .inr (.inr (.inl ‹_›))⟩
      · cases h
  all_goals simp_all

def isPart (c : Char) : Bool :=
  c.isDigit || c == '.' || c == '+' || c == '-' || c == 'e' || c == 'E'

theorem isPart_of_step {strict : Bool} {n n' : NumberReader} {c : Char}
    (h : n.step strict c = .ok (some n')) : isPart c := by
  unfold isPart
  cases hd : digit? c with
  | some d => simp [isDigit_of_digit? hd]
  | none =>
    obtain ⟨-, rfl | rfl | rfl | ⟨rfl | rfl, -⟩⟩ := step_not_digit hd h <;> rfl

/-- A number ends before every character that is no part of one, in the same way. -/
theorem step_of_not_part {strict : Bool} (n : NumberReader) {c : Char}
    (hc : isPart c = false) : n.step strict c = n.step strict ' ' := by
  simp only [isPart, Bool.or_eq_false_iff, beq_eq_false_iff_ne, ne_eq] at hc
  obtain ⟨⟨⟨⟨⟨hd, hpoint⟩, hplus⟩, hminus⟩, he⟩, hE⟩ := hc
  have hdigit : digit? c = none := by simp [digit?, hd]
  have hblank : digit? ' ' = none := rfl
  unfold step
  rw [hdigit, hblank]
  simp [pointOrMark, markOnly, hpoint, hplus, hminus, he, hE]

theorem step_space {strict : Bool} (n : NumberReader) :
    n.step strict ' ' = if n.isComplete then .ok none else .error .invalidNumber := by
  have hdigit : digit? ' ' = none := rfl
  cases hp : n.phase <;> simp [step, isComplete, hp, hdigit, pointOrMark, markOnly]

theorem category_of_step {strict : Bool} {n : NumberReader} {c : Char} {e : Cause}
    (h : n.step strict c = .error e) : e.category = .malformed := by
  unfold step addPower at h
  grind [Cause.category]

end NumberReader

/-! ## Strings -/

namespace StringReader

/-- The four bytes of a `\u` escape are not all taken. -/
def Sound (r : StringReader) : Prop :=
  match r.phase with
  | .code _ taken _ => taken < 4
  | _ => True

/-- No byte taken so far spoils a `\u` escape. -/
def Alive (r : StringReader) : Prop :=
  match r.phase with
  | .code _ _ number => number.isSome
  | _ => True

theorem resolve_eq_ok {strict : Bool} {r r' : StringReader} {leading : Option Nat} {n : Nat}
    (h : r.resolve strict leading n = .ok r') :
    r'.phase = .plain ∨ ∃ first, r'.phase = .pairBackslash first := by
  unfold resolve push at h
  grind

theorem category_of_resolve {strict : Bool} {r : StringReader} {leading : Option Nat} {n : Nat}
    {e : Cause} (h : r.resolve strict leading n = .error e) : e.category = .malformed := by
  unfold resolve at h
  grind [Cause.category]

theorem sound_of_resolve {strict : Bool} {r r' : StringReader} {leading : Option Nat} {n : Nat}
    (h : r.resolve strict leading n = .ok r') : r'.Sound := by
  unfold Sound
  rcases resolve_eq_ok h with hp | ⟨first, hp⟩ <;> simp [hp]

theorem step_sound {strict : Bool} {r r' : StringReader} {c : Char}
    (h : r.step strict c = .ok (.more r')) : r'.Sound := by
  unfold step at h
  grind [Sound, push, sound_of_resolve]

/-- Once a byte spoils an escape, the string cannot be closed. -/
theorem step_not_alive {strict : Bool} {r : StringReader} {c : Char} {p : Progress}
    (hr : ¬ r.Alive) (h : r.step strict c = .ok p) : ∃ r', p = .more r' ∧ ¬ r'.Alive := by
  unfold Alive at hr
  split at hr
  · rename_i leading taken number hp
    obtain rfl : number = none := by simpa using hr
    simp only [step, hp] at h
    split at h
    · cases h
      exact ⟨_, rfl, by simp [Alive]⟩
    · cases h
  · exact absurd trivial hr

/-- A fault is at a byte of the character at hand. -/
theorem step_error {strict : Bool} {r : StringReader} {c : Char} {e : Cause} {k : Nat}
    (hr : r.Sound) (h : r.step strict c = .error (e, k)) :
    e.category = .malformed ∧ 1 ≤ k ∧ k ≤ c.utf8Size := by
  have hc := c.utf8Size_pos
  unfold Sound at hr
  unfold step at h
  grind [Cause.category, category_of_resolve]

end StringReader

end NewsSearch.Json
