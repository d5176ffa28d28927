import NewsSearch.Json.Members
import Mathlib.Data.List.Induction
import Mathlib.Data.List.Nodup

/-!
# Members put one after another

Pairs with the same key become one member: it stands where the key first came, and its value is the
one that came last.
-/

namespace NewsSearch.Json

variable {α : Type}

/-- Putting touches no other member. -/
theorem filter_ne_put (key : String) (value : α) (ms : List (String × α)) :
    (put key value ms).filter (·.1 != key) = ms.filter (·.1 != key) := by
  induction ms with
  | nil => simp [put]
  | cons m ms ih =>
    obtain ⟨k, v⟩ := m
    by_cases hk : k = key
    · simp [put, hk]
    · simp [put, hk, ih]

theorem nodup_keys_put {key : String} {value : α} {ms : List (String × α)}
    (h : (ms.map Prod.fst).Nodup) : ((put key value ms).map Prod.fst).Nodup := by
  rw [keys_put]
  split
  case isTrue => exact h
  case isFalse hkey =>
    exact h.append (List.nodup_singleton key) (List.disjoint_singleton.mpr hkey)

theorem mem_put {key : String} {value : α} {ms : List (String × α)} {m : String × α}
    (h : m ∈ put key value ms) : m = (key, value) ∨ m ∈ ms := by
  induction ms with
  | nil => exact .inl (List.mem_singleton.mp h)
  | cons first ms ih =>
    rw [put] at h
    split at h
    case isTrue hkey =>
      rcases List.mem_cons.mp h with h | h
      · exact .inl (by rw [h, hkey])
      · exact .inr (List.mem_cons_of_mem _ h)
    case isFalse =>
      rcases List.mem_cons.mp h with h | h
      · exact .inr (h ▸ List.mem_cons_self)
      · exact (ih h).imp_right (List.mem_cons_of_mem _)

theorem get?_eq_none_iff {key : String} {ms : List (String × α)} :
    get? key ms = none ↔ key ∉ ms.map Prod.fst := by
  induction ms with
  | nil => simp [get?]
  | cons m ms ih =>
    obtain ⟨k, v⟩ := m
    by_cases hk : k = key
    · simp [get?, hk]
    · simp [get?, hk, Ne.symm hk, ih]

theorem mem_of_get? {key : String} {v : α} {ms : List (String × α)} (h : get? key ms = some v) :
    (key, v) ∈ ms := by
  induction ms with
  | nil => cases h
  | cons m ms ih =>
    obtain ⟨k, w⟩ := m
    rw [get?] at h
    split at h
    case isTrue hk =>
      cases h
      exact hk ▸ List.mem_cons_self
    case isFalse => exact List.mem_cons_of_mem _ (ih h)

theorem get?_eq_some_iff {key : String} {v : α} {ms : List (String × α)}
    (h : (ms.map Prod.fst).Nodup) : get? key ms = some v ↔ (key, v) ∈ ms := by
  refine ⟨mem_of_get?, fun hmem => ?_⟩
  induction ms with
  | nil => cases hmem
  | cons m ms ih =>
    obtain ⟨k, w⟩ := m
    obtain ⟨hk, hnodup⟩ := List.nodup_cons.mp h
    rw [get?]
    rcases List.mem_cons.mp hmem with heq | hmem
    · cases heq
      exact if_pos rfl
    · have hne : k ≠ key := by
        rintro rfl
        exact hk (List.mem_map.mpr ⟨_, hmem, rfl⟩)
      rw [if_neg hne]
      exact ih hnodup hmem

theorem ofPairs_snoc (pairs : List (String × α)) (p : String × α) :
    ofPairs (pairs ++ [p]) = put p.1 p.2 (ofPairs pairs) := by
  simp [ofPairs]

theorem put_of_not_mem {key : String} {value : α} {ms : List (String × α)}
    (h : key ∉ ms.map Prod.fst) : put key value ms = ms ++ [(key, value)] := by
  induction ms with
  | nil => rfl
  | cons m ms ih =>
    rw [List.map_cons, List.mem_cons, not_or] at h
    rw [put, if_neg (Ne.symm h.1), ih h.2, List.cons_append]

/-- Pairs whose keys differ stay as they are. -/
theorem ofPairs_of_nodup {pairs : List (String × α)} (h : (pairs.map Prod.fst).Nodup) :
    ofPairs pairs = pairs := by
  induction pairs using List.reverseRecOn with
  | nil => rfl
  | append_singleton pairs p ih =>
    rw [List.map_append, List.nodup_append'] at h
    obtain ⟨hpairs, -, hdisjoint⟩ := h
    rw [ofPairs_snoc, ih hpairs, put_of_not_mem fun hp => hdisjoint hp List.mem_cons_self]

theorem keys_ofPairs (pairs : List (String × α)) :
    (ofPairs pairs).map Prod.fst = (pairs.map Prod.fst).eraseDups := by
  induction pairs using List.reverseRecOn with
  | nil => rfl
  | append_singleton pairs p ih =>
    rw [ofPairs_snoc, keys_put, List.map_append, List.eraseDups_append, ih]
    by_cases hp : p.1 ∈ pairs.map Prod.fst
    · rw [if_pos (List.mem_eraseDups.mpr hp)]
      simp [List.removeAll, hp]
    · rw [if_neg fun h => hp (List.mem_eraseDups.mp h)]
      simp [List.removeAll, hp, List.eraseDups_cons]

theorem nodup_keys_ofPairs (pairs : List (String × α)) : ((ofPairs pairs).map Prod.fst).Nodup := by
  induction pairs using List.reverseRecOn with
  | nil => exact List.nodup_nil
  | append_singleton pairs p ih =>
    rw [ofPairs_snoc]
    exact nodup_keys_put ih

/-- The value that pairs give a key last. -/
def lastValue? (key : String) (pairs : List (String × α)) : Option α :=
  ((pairs.filter (·.1 == key)).map Prod.snd).getLast?

theorem get?_ofPairs (key : String) (pairs : List (String × α)) :
    get? key (ofPairs pairs) = lastValue? key pairs := by
  induction pairs using List.reverseRecOn with
  | nil => rfl
  | append_singleton pairs p ih =>
    rw [ofPairs_snoc, get?_put, ih, lastValue?, lastValue?, List.filter_append, List.map_append,
      List.getLast?_append]
    by_cases hp : p.1 = key <;> simp [hp]

end NewsSearch.Json
