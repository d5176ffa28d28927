import NewsSearch.Proofs.Json.Regular

/-!
# Leaving out null members

The same value without the members that are null, at every depth. The items of lists stay, null or
not: their places count.
-/

namespace NewsSearch.Json

mutual

def Value.withoutNulls : Value → Value
  | .array items => .array (itemsWithoutNulls items)
  | .object members => .object (membersWithoutNulls members)
  | v => v

def itemsWithoutNulls : List Value → List Value
  | [] => []
  | v :: vs => v.withoutNulls :: itemsWithoutNulls vs

def membersWithoutNulls : List (String × Value) → List (String × Value)
  | [] => []
  | (_, .null) :: ms => membersWithoutNulls ms
  | (key, v) :: ms => (key, v.withoutNulls) :: membersWithoutNulls ms

end

/-- What a member gives: nothing if it is missing or null. -/
def present : Option Value → Option Value
  | some .null => none
  | v => v

theorem itemsWithoutNulls_eq_map (vs : List Value) :
    itemsWithoutNulls vs = vs.map Value.withoutNulls := by
  induction vs with
  | nil => rfl
  | cons v vs ih => rw [itemsWithoutNulls, ih, List.map_cons]

theorem present_some {v : Value} (h : v ≠ .null) : present (some v) = some v := by
  cases v with
  | null => exact absurd rfl h
  | _ => rfl

theorem eq_some_of_present {v : Option Value} {w : Value} (h : present v = some w) :
    v = some w := by
  rcases v with _ | (_ | _ | _ | _ | _ | _) <;> cases h <;> rfl

theorem present_present (v : Option Value) : present (present v) = present v := by
  rcases v with _ | (_ | _ | _ | _ | _ | _) <;> rfl

theorem present_map_withoutNulls (v : Option Value) :
    present (v.map Value.withoutNulls) = (present v).map Value.withoutNulls := by
  rcases v with _ | (_ | _ | _ | _ | _ | _) <;> rfl

theorem membersWithoutNulls_cons {key : String} {v : Value} (h : v ≠ .null) (ms : Members) :
    membersWithoutNulls ((key, v) :: ms) = (key, v.withoutNulls) :: membersWithoutNulls ms := by
  cases v with
  | null => exact absurd rfl h
  | _ => rfl

theorem mem_membersWithoutNulls {m : String × Value} {ms : Members}
    (h : m ∈ membersWithoutNulls ms) : ∃ v, (m.1, v) ∈ ms ∧ v ≠ .null ∧ m.2 = v.withoutNulls := by
  induction ms with
  | nil => cases h
  | cons first ms ih =>
    obtain ⟨key, w⟩ := first
    by_cases hw : w = .null
    · subst hw
      obtain ⟨v, hv, hm⟩ := ih h
      exact ⟨v, List.mem_cons_of_mem _ hv, hm⟩
    · rw [membersWithoutNulls_cons hw] at h
      rcases List.mem_cons.mp h with rfl | h
      · exact ⟨w, List.mem_cons_self, hw, rfl⟩
      · obtain ⟨v, hv, hm⟩ := ih h
        exact ⟨v, List.mem_cons_of_mem _ hv, hm⟩

theorem keys_membersWithoutNulls (ms : Members) :
    List.Sublist ((membersWithoutNulls ms).map Prod.fst) (ms.map Prod.fst) := by
  induction ms with
  | nil => exact .slnil
  | cons m ms ih =>
    obtain ⟨key, v⟩ := m
    by_cases hv : v = .null
    · subst hv
      exact ih.cons key
    · rw [membersWithoutNulls_cons hv]
      exact ih.cons_cons key

/-- A null member and a missing one leave the same. -/
theorem get?_membersWithoutNulls {key : String} {ms : Members} (h : (ms.map Prod.fst).Nodup) :
    get? key (membersWithoutNulls ms) = (present (get? key ms)).map Value.withoutNulls := by
  induction ms with
  | nil => rfl
  | cons m ms ih =>
    obtain ⟨k, v⟩ := m
    obtain ⟨hk, hnodup⟩ := List.nodup_cons.mp h
    by_cases hkey : k = key
    · subst hkey
      by_cases hv : v = .null
      · subst hv
        have hmissing : k ∉ (membersWithoutNulls ms).map Prod.fst := fun hmem =>
          hk ((keys_membersWithoutNulls ms).subset hmem)
        simpa [membersWithoutNulls, get?, present] using get?_eq_none_iff.mpr hmissing
      · simp [membersWithoutNulls_cons hv, get?, present_some hv]
    · by_cases hv : v = .null
      · subst hv
        simpa [membersWithoutNulls, get?, hkey] using ih hnodup
      · simpa [membersWithoutNulls_cons hv, get?, hkey] using ih hnodup

theorem Value.Regular.withoutNulls {v : Value} (h : v.Regular) : v.withoutNulls.Regular := by
  induction h with
  | null => exact .null
  | bool b => exact .bool b
  | number h => exact .number h
  | string s => exact .string s
  | array _ ih =>
    rw [Value.withoutNulls, itemsWithoutNulls_eq_map]
    exact .array (List.forall_mem_map.mpr ih)
  | object keys _ ih =>
    refine .object (keys.sublist (keys_membersWithoutNulls _)) fun m hm => ?_
    obtain ⟨v, hmem, -, hv⟩ := mem_membersWithoutNulls hm
    rw [hv]
    exact ih _ hmem

end NewsSearch.Json
