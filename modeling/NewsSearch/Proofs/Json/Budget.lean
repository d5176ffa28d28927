import NewsSearch.Json.Repair
import Mathlib.Data.Nat.Find

/-!
# The budget of a repair

More budget never changes an answer that less budget settles. So each text has at most one
threshold, below which the budget is spent and from which on the answer stays the same.
-/

namespace NewsSearch.Json.Repair

/-- An answer that does not come from a spent budget. -/
def Settled : Except RepairError Members → Prop
  | .error (.exhausted _ _) => False
  | _ => True

/-- A repair that starts with `k` more, both allowed and left, has the same answer, unless the
smaller budget is spent. -/
theorem mend_add (budget left k : Nat) (document : List Char) :
    (∃ e, mend budget left document = .error (.exhausted budget e)) ∨
      (Settled (mend budget left document) ∧
        mend (budget + k) (left + k) document = mend budget left document) := by
  induction left generalizing document with
  | zero =>
    rw [mend.eq_def budget, mend.eq_def (budget + k)]
    dsimp only
    cases attempt document with
    | readable v => exact .inr ⟨trivial, rfl⟩
    | broken e next => exact .inl ⟨e, rfl⟩
    | hopeless e =>
      have hlt : 0 + k < budget + k ↔ 0 < budget := by omega
      simp only [hlt]
      split
      · exact .inl ⟨e, rfl⟩
      · exact .inr ⟨trivial, rfl⟩
  | succ left ih =>
    rw [mend.eq_def budget, mend.eq_def (budget + k)]
    dsimp only
    cases attempt document with
    | readable v => exact .inr ⟨trivial, rfl⟩
    | broken e next =>
      rw [Nat.succ_add]
      cases next with
      | none => exact .inr ⟨trivial, rfl⟩
      | some next => exact ih next
    | hopeless e =>
      have hlt : left + 1 + k < budget + k ↔ left + 1 < budget := by omega
      simp only [hlt]
      split
      · exact .inl ⟨e, rfl⟩
      · exact .inr ⟨trivial, rfl⟩

theorem parse_add (budget k : Nat) (text : String) :
    (∃ e, parse budget text = .error (.exhausted budget e)) ∨
      (Settled (parse budget text) ∧ parse (budget + k) text = parse budget text) := by
  unfold parse
  split
  · exact .inr ⟨trivial, rfl⟩
  · exact mend_add budget budget k text.toList

theorem parse_of_settled {n n' : Nat} {text : String} (hle : n ≤ n')
    (h : Settled (parse n text)) : parse n' text = parse n text := by
  obtain ⟨k, rfl⟩ := Nat.exists_eq_add_of_le hle
  rcases parse_add n k text with ⟨e, he⟩ | ⟨-, hk⟩
  · rw [he] at h
    cases h
  · exact hk

theorem exhausted_of_not_settled {n : Nat} {text : String} (h : ¬ Settled (parse n text)) :
    ∃ e, parse n text = .error (.exhausted n e) :=
  (parse_add n 0 text).resolve_right fun hs => h hs.1

/-- A greater budget keeps every answer but a spent budget, and a smaller one gives the same answer
or is spent. So a text has a threshold from which on its answer never changes, or none at all. -/
theorem parse_monotone (text : String) :
    (∀ n n', n ≤ n' →
      (∀ members, parse n text = .ok members → parse n' text = .ok members) ∧
      (∀ e, parse n text = .error (.unrecoverable e) →
        parse n' text = .error (.unrecoverable e)) ∧
      (Settled (parse n' text) → parse n text = parse n' text ∨
        ∃ e, parse n text = .error (.exhausted n e))) ∧
    ((∀ n, ∃ e, parse n text = .error (.exhausted n e)) ∨
      ∃ k answer, Settled answer ∧ (∀ n, k ≤ n → parse n text = answer) ∧
        ∀ n, n < k → ∃ e, parse n text = .error (.exhausted n e)) := by
  constructor
  · intro n n' hle
    refine ⟨?_, ?_, ?_⟩
    · intro members h
      rw [parse_of_settled hle (by rw [h]; trivial), h]
    · intro e h
      rw [parse_of_settled hle (by rw [h]; trivial), h]
    · intro _
      by_cases hs : Settled (parse n text)
      · exact .inl (parse_of_settled hle hs).symm
      · exact .inr (exhausted_of_not_settled hs)
  · by_cases h : ∃ n, Settled (parse n text)
    · -- The threshold is the least budget that settles the text.
      classical
      have hk := Nat.find_spec h
      exact .inr ⟨Nat.find h, parse (Nat.find h) text, hk, fun n hle => parse_of_settled hle hk,
        fun n hlt => exhausted_of_not_settled (Nat.find_min h hlt)⟩
    · exact .inl fun n => exhausted_of_not_settled fun hs => h ⟨n, hs⟩

end NewsSearch.Json.Repair
