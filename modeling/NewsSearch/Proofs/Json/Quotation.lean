import NewsSearch.Proofs.Json.Move
import NewsSearch.Proofs.Json.Tokens
import Mathlib.Data.List.Induction
import Mathlib.Tactic.ByContra

/-!
# String literals

Where a place stands with respect to the string literals of a text can be said from the quotes and
backslashes before it. The states of the reader agree, as long as the text can still be read.
-/

namespace NewsSearch.Json

/-- A place in a text: outside every string literal, inside one, or inside one after a backslash. -/
inductive Quotation
  | outside
  | inside
  | escaped
deriving DecidableEq, Repr

namespace Quotation

/-- The place after one more character. -/
def next : Quotation → Char → Quotation
  | .outside, c => if c = '"' then .inside else .outside
  | .inside, c => if c = '"' then .outside else if c = '\\' then .escaped else .inside
  | .escaped, _ => .inside

def through (q : Quotation) (cs : List Char) : Quotation := cs.foldl next q

@[simp] theorem through_nil (q : Quotation) : q.through [] = q := rfl

@[simp] theorem through_cons (q : Quotation) (c : Char) (cs : List Char) :
    q.through (c :: cs) = (q.next c).through cs := rfl

@[simp] theorem through_append (q : Quotation) (p r : List Char) :
    q.through (p ++ r) = (q.through p).through r := by
  simp [through, List.foldl_append]

theorem next_outside {c : Char} (hc : c ≠ '"') : next .outside c = .outside := by
  simp [next, hc]

theorem next_inside {c : Char} (hq : c ≠ '"') (hb : c ≠ '\\') : next .inside c = .inside := by
  simp [next, hq, hb]

end Quotation

/-! ## The place that a state stands for -/

def StringReader.quotation (r : StringReader) : Quotation :=
  match r.phase with
  | .escape | .pairLetter _ => .escaped
  | _ => .inside

namespace State

def quotation (st : State) : Quotation :=
  match st.goal with
  | .keyText _ r | .text r => r.quotation
  | _ => .outside

def string? : State → Option StringReader
  | ⟨.keyText _ r, _⟩ | ⟨.text r, _⟩ => some r
  | _ => none

/-- Letters are left of a word, which stands for a simple value. -/
def Sound (st : State) : Prop :=
  match st.goal with
  | .keyText _ r | .text r => r.Sound
  | .word letters v =>
    letters ≠ [] ∧ letters.all Char.isAlpha ∧ (v = .null ∨ ∃ b, v = .bool b)
  | _ => True

/-- A string that is being read can still be closed. -/
def Alive (st : State) : Prop :=
  match st.goal with
  | .keyText _ r | .text r => r.Alive
  | _ => True

end State

namespace StringReader

theorem hexDigit?_ne {c : Char} (h : (hexDigit? c).isSome) : c ≠ '"' ∧ c ≠ '\\' := by
  constructor <;> (rintro rfl; cases h)

/-- Inside an escape that can still be valid only hexadecimal digits are taken. -/
theorem step_code {strict : Bool} {r r' : StringReader} {c : Char} {leading : Option Nat}
    {taken : Nat} {number : Option Nat} (hp : r.phase = .code leading taken number)
    (h : r.step strict c = .ok (.more r')) (hr : r'.Alive) :
    (hexDigit? c).isSome ∧ r'.quotation = .inside := by
  simp only [step, hp] at h
  cases hd : hexDigit? c with
  | none =>
    simp only [hd] at h
    split at h
    · cases h
      simp [Alive] at hr
    · simp at h
  | some d =>
    refine ⟨rfl, ?_⟩
    split at h
    · cases h
      rfl
    · split at h
      · cases h
      · split at h
        · cases h
        · cases h
          unfold quotation
          rcases resolve_eq_ok ‹_› with hp | ⟨first, hp⟩ <;> simp [hp]

theorem step_quotation {strict : Bool} {r r' : StringReader} {c : Char}
    (h : r.step strict c = .ok (.more r')) (hr : r'.Alive) :
    r'.quotation = r.quotation.next c := by
  cases hp : r.phase with
  | code leading taken number =>
    obtain ⟨hd, hq⟩ := step_code hp h hr
    have hne := hexDigit?_ne hd
    rw [hq, quotation, hp]
    exact (Quotation.next_inside hne.1 hne.2).symm
  | _ =>
    simp only [step, hp] at h
    grind [quotation, Quotation.next, push]

theorem step_closed {strict : Bool} {r : StringReader} {c : Char} {s : String}
    (h : r.step strict c = .ok (.closed s)) : r.quotation = .inside ∧ c = '"' := by
  unfold step at h
  grind [quotation]

end StringReader

/-! ## What every move keeps -/

namespace Reader

variable {rules : Rules} {st st' : State} {c : Char}

theorem supply_goal (v : Value) (stack : List Frame) :
    (supply v stack).Sound ∧ (supply v stack).Alive ∧
      (supply v stack).quotation = .outside := by
  unfold supply
  split <;> exact ⟨trivial, trivial, rfl⟩

theorem Start.sound {stack : List Frame} (h : Start rules stack c st) : st.Sound := by
  cases h with
  | null => exact ⟨by simp, rfl, .inl rfl⟩
  | true => exact ⟨by simp, rfl, .inr ⟨_, rfl⟩⟩
  | false => exact ⟨by simp, rfl, .inr ⟨_, rfl⟩⟩
  | _ => exact trivial

theorem Move.sound (h : Move rules st c st') (hs : st.Sound) : st'.Sound := by
  induction h with
  | blank => exact hs
  | start _ hstart => exact hstart.sound
  | inKey h | inString h => exact StringReader.step_sound h
  | letter hl => exact ⟨hl, (Bool.and_eq_true_iff.mp hs.2.1).2, hs.2.2⟩
  | endNumber _ hn _ ih =>
    obtain ⟨v, -, rfl⟩ := endNumber_eq_ok hn
    exact ih (supply_goal v _).1
  | emptyList | endList | emptyObject | endObject | endString | lastLetter | noLetter =>
    exact (supply_goal _ _).1
  | _ => exact trivial

/-- A string that can no longer be closed stays so. -/
theorem Move.not_alive (h : Move rules st c st') (hs : ¬ st.Alive) : ¬ st'.Alive := by
  cases h with
  | inKey h | inString h =>
    obtain ⟨r', hr', h'⟩ := StringReader.step_not_alive hs h
    cases hr'
    exact h'
  | endKey h | endString h =>
    obtain ⟨r', hr', -⟩ := StringReader.step_not_alive hs h
    cases hr'
  | blank => exact hs
  | start hst =>
    unfold State.valueStack? at hst
    split at hst <;> first | exact absurd trivial hs | cases hst
  | _ => exact absurd trivial hs

theorem Start.quotation {stack : List Frame} (h : Start rules stack c st) :
    st.quotation = Quotation.next .outside c := by
  cases h with
  | digit hd =>
    rw [Quotation.next_outside]
    · rfl
    · rintro rfl
      exact absurd (NumberReader.isDigit_of_digit? hd) (by decide)
  | _ => rfl

/-- A string takes a character as its reader does. -/
theorem advance_string {r : StringReader} (h : st.string? = some r) :
    (∀ e, r.step rules.strict c = .error e → advance rules st c = .error e) ∧
      ∀ st', advance rules st c = .ok st' → ∃ p, r.step rules.strict c = .ok p ∧
        ∀ r', p = .more r' → st'.string? = some r' := by
  unfold State.string? at h
  split at h
  case h_3 => cases h
  all_goals
    cases h
    simp only [advance_keyText, advance_text]
    constructor
    · intro e he
      rw [he]
    · intro st' hadv
      split at hadv
      · cases hadv
      · cases hadv
        exact ⟨_, ‹_›, fun r' hr' => by cases hr'; rfl⟩
      · exact ⟨_, ‹_›, fun r' hr' => by cases hr'⟩

theorem alive_of_string? {r : StringReader} (h : st.string? = some r) (ha : st.Alive) :
    r.Alive := by
  unfold State.string? at h
  split at h <;> cases h <;> exact ha

theorem quotation_of_isBetween (hg : st.goal.isBetween) : st.quotation = .outside := by
  unfold Goal.isBetween at hg
  unfold State.quotation
  split <;> simp_all

theorem quotation_of_valueStack? {stack : List Frame} (h : st.valueStack? = some stack) :
    st.quotation = .outside := by
  unfold State.valueStack? at h
  split at h <;> first | rfl | cases h

theorem isSpace_ne {c d : Char} (h : isSpace c) (hd : isSpace d = false) : c ≠ d := by
  rintro rfl
  simp [h] at hd

/-- The states go through the string literals of the text. -/
theorem Move.quotation (h : Move rules st c st') (hs : st.Sound) (ha : st'.Alive) :
    st'.quotation = st.quotation.next c := by
  induction h with
  | blank hg hc =>
    rw [quotation_of_isBetween hg]
    exact (Quotation.next_outside (isSpace_ne hc rfl)).symm
  | start hst hstart => rw [quotation_of_valueStack? hst, hstart.quotation]
  | inKey h | inString h => exact StringReader.step_quotation h ha
  | endKey h =>
    obtain ⟨hq, rfl⟩ := StringReader.step_closed h
    exact (congrArg (Quotation.next · '"') hq).symm
  | endString h =>
    obtain ⟨hq, rfl⟩ := StringReader.step_closed h
    rw [(supply_goal _ _).2.2]
    exact (congrArg (Quotation.next · '"') hq).symm
  | letter _ =>
    have hc := (Bool.and_eq_true_iff.mp hs.2.1).1
    exact (Quotation.next_outside (by rintro rfl; cases hc)).symm
  | lastLetter =>
    have hc := (Bool.and_eq_true_iff.mp hs.2.1).1
    rw [(supply_goal _ _).2.2]
    exact (Quotation.next_outside (by rintro rfl; cases hc)).symm
  | noLetter => exact absurd rfl hs.1
  | inNumber h =>
    have hc := NumberReader.isPart_of_step h
    exact (Quotation.next_outside (by rintro rfl; cases hc)).symm
  | endNumber _ hn _ ih =>
    obtain ⟨v, -, rfl⟩ := endNumber_eq_ok hn
    rw [ih (supply_goal v _).1 ha, (supply_goal v _).2.2]
    rfl
  | emptyList | endList | emptyObject | endObject =>
    rw [(supply_goal _ _).2.2]
    rfl
  | _ => rfl

/-! ## What every run keeps -/

theorem walk_sound {p : List Char} (h : walk rules st p = some st') (hs : st.Sound) :
    st'.Sound := by
  induction p generalizing st with
  | nil =>
    cases h
    exact hs
  | cons c p ih =>
    rw [walk] at h
    split at h
    · cases h
    · exact ih h ((move_of_advance ‹_›).sound hs)

theorem finish_alive {v : Value} (h : finish rules st = .ok v) : st.Alive := by
  rcases finish_eq_ok h with ⟨stack, rfl⟩ | ⟨n, rfl, -⟩ <;> exact trivial

/-- A text that can be read leads through states whose strings can be closed. -/
theorem alive_of_run {n : Nat} {cs : List Char} {v : Value} (h : run rules n st cs = .ok v) :
    st.Alive := by
  induction cs generalizing n st with
  | nil => exact finish_alive (run_nil_eq_ok.mp h)
  | cons c cs ih =>
    obtain ⟨s, hs, hrun⟩ := run_cons_eq_ok.mp h
    by_contra hst
    exact (move_of_advance hs).not_alive hst (ih hrun)

theorem walk_quotation {p : List Char} (h : walk rules st p = some st') (hs : st.Sound)
    (ha : st'.Alive) : st'.quotation = st.quotation.through p := by
  induction p using List.reverseRecOn generalizing st' with
  | nil =>
    cases h
    rfl
  | append_singleton p c ih =>
    obtain ⟨s, hp, hc⟩ := (walk_snoc _ _ _ _).mp h
    have hm := move_of_advance hc
    have hsa : s.Alive := by
      by_contra hst
      exact hm.not_alive hst ha
    rw [hm.quotation (walk_sound hp hs) ha, ih hp hsa, Quotation.through_append]
    rfl

end Reader

end NewsSearch.Json
