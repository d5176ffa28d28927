import NewsSearch.Json.Reader
import Mathlib.Data.List.TakeWhile

/-!
# Reading as one run

`read` scans a value and then looks at what is left of the text. Here both are one machine that
takes every character in turn and, once the value is complete, takes blanks only. `read_eq_run` says
that the two agree; the other lemmas cut a run in two.
-/

namespace NewsSearch.Json.Reader

variable {rules : Rules}

/-- Takes one character, wherever it stands. -/
def advance (rules : Rules) (st : State) (c : Char) : Except Strike State :=
  match settle rules st c with
  | .error e => .error e
  | .ok st' => step rules st' c

/-- Takes characters to the end of the text. `n` is the number of bytes before them. -/
def run (rules : Rules) (n : Nat) (st : State) : List Char → Except Fault Value
  | [] =>
    match finish rules st with
    | .error e => .error ⟨e, n⟩
    | .ok v => .ok v
  | c :: cs =>
    match advance rules st c with
    | .error (e, k) => .error ⟨e, n + k⟩
    | .ok st' => run rules (n + c.utf8Size) st' cs

/-- The state after some characters, if none of them is at fault. -/
def walk (rules : Rules) (st : State) : List Char → Option State
  | [] => some st
  | c :: cs =>
    match advance rules st c with
    | .error _ => none
    | .ok st' => walk rules st' cs

theorem run_nil_eq_ok {n : Nat} {st : State} {v : Value} :
    run rules n st [] = .ok v ↔ finish rules st = .ok v := by
  rw [run]
  cases finish rules st <;> simp

theorem run_cons_eq_ok {n : Nat} {st : State} {c : Char} {cs : List Char} {v : Value} :
    run rules n st (c :: cs) = .ok v ↔
      ∃ st', advance rules st c = .ok st' ∧ run rules (n + c.utf8Size) st' cs = .ok v := by
  rw [run]
  cases advance rules st c <;> simp

/-! ## Bytes -/

@[simp] theorem byteCount_nil : byteCount [] = 0 := rfl

@[simp] theorem byteCount_cons (c : Char) (cs : List Char) :
    byteCount (c :: cs) = c.utf8Size + byteCount cs := rfl

@[simp] theorem byteCount_append (p r : List Char) :
    byteCount (p ++ r) = byteCount p + byteCount r := by
  induction p with
  | nil => simp
  | cons c p ih => simp [ih, Nat.add_assoc]

@[simp] theorem byteCount_replicate (n : Nat) (c : Char) :
    byteCount (List.replicate n c) = n * c.utf8Size := by
  induction n with
  | zero => simp
  | succ n ih => rw [List.replicate_succ, byteCount_cons, ih, Nat.succ_mul, Nat.add_comm]

/-! ## One run for the whole text -/

/-- What a scanned value and the rest of a text of `total` bytes come to. -/
def endOfText (total : Nat) (r : Value × List Char) : Except Fault Value :=
  match skipSpaces r.2 with
  | [] => .ok r.1
  | c :: more => .error ⟨.trailingCharacters, total - byteCount (c :: more) + 1⟩

theorem read_eq_scan (cs : List Char) :
    read cs = (scan strictRules 0 initial cs).bind (endOfText (byteCount cs)) := by
  unfold read endOfText
  cases scan strictRules 0 initial cs <;> rfl

theorem advance_done (v : Value) (stack : List Frame) (c : Char) :
    advance rules ⟨.done v, stack⟩ c =
      if isSpace c then .ok ⟨.done v, stack⟩ else .error (.trailingCharacters, 1) := rfl

/-- After the value only blanks are taken. -/
theorem run_done (n : Nat) (v : Value) (stack : List Frame) (cs : List Char) :
    run rules n ⟨.done v, stack⟩ cs = endOfText (n + byteCount cs) (v, cs) := by
  induction cs generalizing n with
  | nil => rfl
  | cons c cs ih =>
    rw [run, advance_done]
    by_cases hc : isSpace c
    · simp [hc, ih, endOfText, skipSpaces, Nat.add_assoc]
    · simp [hc, endOfText, skipSpaces]

theorem run_done_eq_ok {n : Nat} {v w : Value} {stack : List Frame} {cs : List Char}
    (h : run rules n ⟨.done v, stack⟩ cs = .ok w) : w = v ∧ ∀ c ∈ cs, isSpace c := by
  rw [run_done, endOfText] at h
  split at h
  · rename_i hcs
    cases h
    exact ⟨rfl, List.dropWhile_eq_nil_iff.mp hcs⟩
  · cases h

theorem scan_bind_endOfText (n : Nat) (st : State) (cs : List Char) :
    (scan rules n st cs).bind (endOfText (n + byteCount cs)) = run rules n st cs := by
  induction cs generalizing n st with
  | nil =>
    rw [scan, run]
    cases finish rules st <;> rfl
  | cons c cs ih =>
    rw [scan, run, advance]
    cases settle rules st c with
    | error e => rfl
    | ok st' =>
      obtain ⟨goal, stack⟩ := st'
      cases goal with
      | done v => exact (run_done n v stack (c :: cs)).symm
      | _ =>
        rw [byteCount_cons, ← Nat.add_assoc]
        dsimp only
        generalize step rules _ c = r
        cases r with
        | error e => rfl
        | ok st' => exact ih _ st'

theorem read_eq_run (cs : List Char) : read cs = run strictRules 0 initial cs := by
  rw [read_eq_scan, ← scan_bind_endOfText, Nat.zero_add]

/-! ## A run in two parts -/

@[simp] theorem walk_nil (st : State) : walk rules st [] = some st := rfl

theorem walk_append (st : State) (p r : List Char) :
    walk rules st (p ++ r) = (walk rules st p).bind (walk rules · r) := by
  induction p generalizing st with
  | nil => rfl
  | cons c p ih =>
    simp only [List.cons_append, walk]
    cases advance rules st c with
    | error e => rfl
    | ok st' => exact ih st'

theorem walk_snoc (st : State) (p : List Char) (c : Char) (st' : State) :
    walk rules st (p ++ [c]) = some st' ↔
      ∃ s, walk rules st p = some s ∧ advance rules s c = .ok st' := by
  rw [walk_append, Option.bind_eq_some_iff]
  simp only [walk]
  constructor
  · rintro ⟨s, hs, h⟩
    refine ⟨s, hs, ?_⟩
    cases ha : advance rules s c <;> simp_all
  · rintro ⟨s, hs, h⟩
    exact ⟨s, hs, by rw [h]⟩

/-- A run goes on from the state after the first part of the text. -/
theorem run_append (n : Nat) (st st' : State) (p r : List Char)
    (h : walk rules st p = some st') :
    run rules n st (p ++ r) = run rules (n + byteCount p) st' r := by
  induction p generalizing n st with
  | nil =>
    obtain rfl : st = st' := by simpa using h
    rfl
  | cons c p ih =>
    rw [walk] at h
    rw [List.cons_append, run]
    cases ha : advance rules st c with
    | error e => simp [ha] at h
    | ok s =>
      rw [ha] at h
      rw [byteCount_cons, ← Nat.add_assoc]
      exact ih _ s h

/-- A text that can be read can be walked through up to any place. -/
theorem walk_of_run_ok (n : Nat) (st : State) (p r : List Char) (v : Value)
    (h : run rules n st (p ++ r) = .ok v) : ∃ st', walk rules st p = some st' := by
  induction p generalizing n st with
  | nil => exact ⟨st, rfl⟩
  | cons c p ih =>
    obtain ⟨s, hs, hrun⟩ := run_cons_eq_ok.mp h
    rw [walk, hs]
    exact ih _ s hrun

end NewsSearch.Json.Reader
