/-!
# Members in order

The members of an object as pairs in the order in which their keys first came. Putting a key again
keeps its place and replaces its value.
-/

namespace NewsSearch.Json

variable {α : Type}

/-- Sets the value under a key: in its place if the key is there, otherwise at the end. -/
def put (key : String) (value : α) : List (String × α) → List (String × α)
  | [] => [(key, value)]
  | (k, v) :: rest => if k = key then (k, value) :: rest else (k, v) :: put key value rest

/-- The first value under a key. -/
def get? (key : String) : List (String × α) → Option α
  | [] => none
  | (k, v) :: rest => if k = key then some v else get? key rest

/-- Puts pairs in order, starting from no members. -/
def ofPairs (pairs : List (String × α)) : List (String × α) :=
  pairs.foldl (fun ms p => put p.1 p.2 ms) []

@[simp]
theorem get?_put (key other : String) (value : α) (ms : List (String × α)) :
    get? other (put key value ms) = if key = other then some value else get? other ms := by
  induction ms with
  | nil => rfl
  | cons m rest ih =>
    obtain ⟨k, v⟩ := m
    by_cases hk : k = key
    · subst hk
      by_cases ho : k = other <;> simp [put, get?, ho]
    · by_cases ho : k = other
      · subst ho; simp [put, get?, hk, Ne.symm hk]
      · simp [put, get?, hk, ho, ih]

/-- The keys after a `put`: a new key goes to the end. -/
theorem keys_put (key : String) (value : α) (ms : List (String × α)) :
    (put key value ms).map Prod.fst =
      if key ∈ ms.map Prod.fst then ms.map Prod.fst else ms.map Prod.fst ++ [key] := by
  induction ms with
  | nil => rfl
  | cons m rest ih =>
    obtain ⟨k, v⟩ := m
    by_cases hk : k = key
    · simp [put, hk]
    · simp only [put, hk, if_false, List.map_cons, ih, List.mem_cons, Ne.symm hk, false_or]
      split <;> rfl

end NewsSearch.Json
