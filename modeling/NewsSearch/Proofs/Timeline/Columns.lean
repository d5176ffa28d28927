import NewsSearch.Proofs.Timeline.Pivot
import NewsSearch.Proofs.Timeline.Shape

/-!
# The columns of a row

Which columns of a row are numbers, and which of the values it is made from can be found in it again.
A column is null where a text of the answer spells a double that is not finite, and a value is lost
where two columns have one name.
-/

namespace NewsSearch.Timeline.Row

open Json Decode

/-! ## Numbers -/

/-- What the row at point `i` shows under a name. -/
inductive Shows (series : List Series) (mode : TimelineMode) (i : Nat) (point : Point) :
    String → Float → Prop
  | total {norm : Float} (h : shownTotal mode point = some norm) :
    Shows series mode i point totalColumn norm
  | value {name : String} {p : Point} (hname : shownTotal mode point = none ∨ name ≠ totalColumn)
      (h : lastPoint? series i name = some p) :
    Shows series mode i point name (p.value.getD 0.0)

/-- A point of the answer has a text for its value or its norm, and the text spells the double. -/
def Spells (payload : Members) (x : Float) : Prop :=
  ∃ items v name points w date value norm s,
    present (get? "timeline" payload) = some (.array items) ∧ v ∈ items ∧
    Holds ["series", "data"] v [name, some (.array points)] ∧ w ∈ points ∧
    Holds ["date", "value", "norm"] w [date, value, norm] ∧
    (value = some (.string s) ∨ norm = some (.string s)) ∧
    Decimal.readNumeral (Text.trim s) = .ok x

variable {series : List Series} {mode : TimelineMode} {i : Nat} {point : Point} {row : Row}

theorem mem_columns_iff (h : Pivots series mode i point row) {name : String} {v : Value} :
    (name, v) ∈ row.columns ↔ ∃ x, Shows series mode i point name x ∧ v = .ofFloat x := by
  rw [← get?_eq_some_iff h.distinct]
  by_cases htotal : shownTotal mode point = none ∨ name ≠ totalColumn
  · rw [h.values name htotal, Option.map_eq_some_iff]
    constructor
    · rintro ⟨p, hp, rfl⟩
      exact ⟨_, .value htotal hp, rfl⟩
    · rintro ⟨_, ⟨hnorm⟩ | ⟨_, hp⟩, rfl⟩
      · simp [hnorm] at htotal
      · exact ⟨_, hp, rfl⟩
  · obtain ⟨hsome, rfl⟩ : shownTotal mode point ≠ none ∧ name = totalColumn := by
      simpa using htotal
    obtain ⟨norm, hnorm⟩ := Option.ne_none_iff_exists'.mp hsome
    rw [h.total norm hnorm, Option.some.injEq]
    constructor
    · rintro rfl
      exact ⟨norm, .total hnorm, rfl⟩
    · rintro ⟨_, ⟨hnorm'⟩ | ⟨hname, _⟩, rfl⟩
      · rw [hnorm] at hnorm'
        cases hnorm'
        rfl
      · exact absurd hname htotal

theorem exists_mem_of_forall₂ {α β : Type} {R : α → β → Prop} {as : List α} {bs : List β}
    (h : List.Forall₂ R as bs) {b : β} (hb : b ∈ bs) : ∃ a ∈ as, R a b := by
  induction h with
  | nil => cases hb
  | cons hab _ ih =>
    rcases List.mem_cons.mp hb with rfl | hb
    · exact ⟨_, List.mem_cons_self, hab⟩
    · obtain ⟨a, ha, hR⟩ := ih hb
      exact ⟨a, List.mem_cons_of_mem _ ha, hR⟩

theorem exists_of_readsList {α : Type} {reads : Value → α → Prop} {v : Option Value} {as : List α}
    (h : ReadsList reads v as) {a : α} (ha : a ∈ as) :
    ∃ items, v = some (.array items) ∧ ∃ w ∈ items, reads w a := by
  cases h with
  | missing => cases ha
  | list h => exact ⟨_, rfl, exists_mem_of_forall₂ h ha⟩

/-- JSON numbers are finite, so only a text gives another double. -/
theorem finite_or_text {v : Option Value} {x : Float} (hv : ∀ w ∈ v, w.Regular)
    (h : ReadsNumber v (some x)) : x.isFinite = true ∨
      ∃ s, v = some (.string s) ∧ Decimal.readNumeral (Text.trim s) = .ok x := by
  cases h with
  | number n =>
    cases hv _ rfl with
    | number hn => exact .inl hn.isFinite_toFloat
  | numeral _ h => exact .inr ⟨_, rfl, h⟩

theorem spells_of_point {payload : Members} (h : payload.Regular)
    (hread : ReadsTimeline payload series) {s : Series} (hs : s ∈ series) {p : Point}
    (hp : p ∈ s.points) {x : Float} (hx : p.value = some x ∨ p.norm = some x) :
    x.isFinite = true ∨ Spells payload x := by
  obtain ⟨items, hitems, v, hv, name, points, hparts, -, hpoints⟩ := exists_of_readsList hread hs
  obtain ⟨ws, rfl, w, hw, date, value, norm, hparts', -, hvalue, hnorm⟩ :=
    exists_of_readsList hpoints hp
  have hitemsRegular : (Value.array items).Regular :=
    Members.Regular.of_get? h (eq_some_of_present hitems)
  have hwsRegular : (Value.array ws).Regular :=
    hparts.regular (hitemsRegular.of_mem hv) (by simp)
  have hregular {u : Value} (hu : some u ∈ [date, value, norm]) : u.Regular :=
    hparts'.regular (hwsRegular.of_mem hw) hu
  rcases hx with hx | hx
  · rw [hx] at hvalue
    refine (finite_or_text (fun u hu => hregular (by simp_all)) hvalue).imp_right ?_
    rintro ⟨s, rfl, hs⟩
    exact ⟨items, v, name, ws, w, _, _, _, s, hitems, hv, hparts, hw, hparts', .inl rfl, hs⟩
  · rw [hx] at hnorm
    refine (finite_or_text (fun u hu => hregular (by simp_all)) hnorm).imp_right ?_
    rintro ⟨s, rfl, hs⟩
    exact ⟨items, v, name, ws, w, _, _, _, s, hitems, hv, hparts, hw, hparts', .inr rfl, hs⟩

theorem exists_of_lastPoint? {name : String} {p : Point} (h : lastPoint? series i name = some p) :
    ∃ s ∈ series, p ∈ s.points := by
  have hmem := List.mem_of_getLast? h
  obtain ⟨s, hs, hp⟩ := List.mem_filterMap.mp hmem
  exact ⟨s, List.mem_of_mem_filter hs, List.mem_of_getElem? hp⟩

theorem exists_of_axis (h : (axis series)[i]? = some point) : ∃ s ∈ series, point ∈ s.points := by
  cases series with
  | nil => cases h
  | cons s series => exact ⟨s, List.mem_cons_self, List.mem_of_getElem? h⟩

theorem spells_of_shows {payload : Members} (h : payload.Regular)
    (hread : ReadsTimeline payload series) (hpoint : (axis series)[i]? = some point) {name : String}
    {x : Float} (hx : Shows series mode i point name x) :
    x.isFinite = true ∨ Spells payload x := by
  cases hx with
  | total hnorm =>
    obtain ⟨s, hs, hp⟩ := exists_of_axis hpoint
    refine spells_of_point h hread hs hp (.inr ?_)
    unfold shownTotal at hnorm
    split at hnorm
    · exact hnorm
    · cases hnorm
  | @value _ p _ hlast =>
    obtain ⟨s, hs, hp⟩ := exists_of_lastPoint? hlast
    cases hvalue : p.value with
    | none => exact .inl rfl
    | some x => exact spells_of_point h hread hs hp (.inl hvalue)

theorem getElem?_ofSeries (h : (axis series)[i]? = some point) :
    (ofSeries series mode)[i]? = some (ofPoint series mode i point) := by
  rw [ofSeries_eq_mapIdx, List.getElem?_mapIdx, h]
  rfl

theorem exists_point_of_mem (h : row ∈ ofSeries series mode) :
    ∃ i point, (axis series)[i]? = some point ∧ row = ofPoint series mode i point := by
  rw [ofSeries_eq_mapIdx] at h
  obtain ⟨i, hi, rfl⟩ := List.mem_mapIdx.mp h
  exact ⟨i, _, List.getElem?_eq_getElem hi, rfl⟩

/-- A row has a column for the last series of each name and for the total. It is a number if what it
shows is finite and null otherwise, and what it shows is finite unless a text of the answer spells
something else. -/
theorem columns_are_numbers {payload : Members} (h : payload.Regular)
    (hread : Series.ofPayload payload = .ok series) (mode : TimelineMode) :
    (∀ i point, (axis series)[i]? = some point →
      ∃ row, (ofSeries series mode)[i]? = some row ∧
        (∀ name v, (name, v) ∈ row.columns ↔ ∃ x, Shows series mode i point name x ∧
          v = if x.isFinite then .number (.real x) else .null) ∧
        ∀ name x, Shows series mode i point name x → x.isFinite = true ∨ Spells payload x) ∧
    ((∀ x, Spells payload x → x.isFinite = true) →
      ∀ row ∈ ofSeries series mode, ∀ column ∈ row.columns,
        ∃ x : Float, x.isFinite = true ∧ column.2 = .number (.real x)) := by
  have hread := (readsTimeline_iff h).mp hread
  refine ⟨fun i point hpoint => ?_, fun hfinite row hrow column hcolumn => ?_⟩
  · exact ⟨_, getElem?_ofSeries hpoint,
      fun _ _ => mem_columns_iff (pivots_ofPoint series i mode point),
      fun _ _ => spells_of_shows h hread hpoint⟩
  · obtain ⟨i, point, hpoint, rfl⟩ := exists_point_of_mem hrow
    obtain ⟨x, hx, hvalue⟩ := (mem_columns_iff (pivots_ofPoint series i mode point)).mp hcolumn
    have hx := (spells_of_shows h hread hpoint hx).elim id (hfinite x)
    exact ⟨x, hx, by rw [hvalue, Value.ofFloat, if_pos hx]⟩

def infinityPayload : Members :=
  [("timeline", .array [.object [("series", .string "A"),
    ("data", .array [.object [("date", .string "d0"), ("value", .string "inf")]])]])]

/-- A text may spell infinity, which has no JSON number. -/
theorem null_column_of_infinity :
    ∃ series, Series.ofPayload infinityPayload = .ok series ∧
      (ofSeries series .volume).map Row.columns = [[("A", .null)]] :=
  ⟨[⟨"A", [⟨"d0", some (1.0 / 0.0), none⟩]⟩], rfl, rfl⟩

theorem infinityPayload_spells : Spells infinityPayload (1.0 / 0.0) := by
  have hpoint : Members.Regular [("date", .string "d0"), ("value", .string "inf")] := by
    refine .object (by decide) ?_
    simp only [List.forall_mem_cons]
    exact ⟨.string _, .string _, nofun⟩
  have hseries : Members.Regular [("series", .string "A"), ("data", .array
      [.object [("date", .string "d0"), ("value", .string "inf")]])] := by
    refine .object (by decide) ?_
    simp only [List.forall_mem_cons]
    exact ⟨.string _, .array (List.forall_mem_cons.mpr ⟨hpoint, nofun⟩), nofun⟩
  have hpayload : infinityPayload.Regular :=
    .object (by decide)
      (List.forall_mem_cons.mpr ⟨.array (List.forall_mem_cons.mpr ⟨hseries, nofun⟩), nofun⟩)
  obtain ⟨row, -, -, hshows⟩ := (columns_are_numbers hpayload rfl .volume).1 0
    ⟨"d0", some (1.0 / 0.0), none⟩ rfl
  exact (hshows "A" _ (.value (.inl rfl) rfl)).resolve_left (by decide)

/-! ## Keys -/

/-- The members of the object that is printed for a row. -/
def printed (row : Row) : Members := ("datetime", .string row.datetime) :: row.columns

/-- The total and its key, where it is shown. -/
def totalPair (mode : TimelineMode) (point : Point) : Members :=
  match shownTotal mode point with
  | some norm => [(totalColumn, .ofFloat norm)]
  | none => []

/-- The keys that point `i` asks for: one for each part of it. -/
def wantedKeys (series : List Series) (mode : TimelineMode) (i : Nat) (point : Point) :
    List String :=
  "datetime" :: (namesAt series i ++ (totalPair mode point).map Prod.fst)

/-- Nothing of point `i` is lost: the object has one key for each part of it, and the part can be
read under that key. -/
structure KeepsAll (series : List Series) (mode : TimelineMode) (i : Nat) (point : Point)
    (row : Row) : Prop where
  keys : (printed row).map Prod.fst = wantedKeys series mode i point
  distinct : ((printed row).map Prod.fst).Nodup
  datetime : get? "datetime" (printed row) = some (.string point.date)
  values : ∀ s ∈ series, ∀ p, s.points[i]? = some p →
    get? s.name (printed row) = some (pointValue p)
  total : ∀ norm, shownTotal mode point = some norm →
    get? totalColumn (printed row) = some (.ofFloat norm)

theorem printed_of_nodup (h : (wantedKeys series mode i point).Nodup) :
    printed (ofPoint series mode i point) =
      ("datetime", .string point.date) :: (pairsAt series i ++ totalPair mode point) := by
  unfold wantedKeys at h
  rw [List.nodup_cons, List.nodup_append', ← names_pairsAt] at h
  obtain ⟨-, hpairs, -, hdisjoint⟩ := h
  unfold printed ofPoint
  rw [ofPairs_of_nodup hpairs, addTotal_eq]
  unfold totalPair at hdisjoint ⊢
  cases hnorm : shownTotal mode point with
  | none => simp
  | some norm =>
    rw [hnorm] at hdisjoint
    simp [put_of_not_mem fun hmem => hdisjoint hmem List.mem_cons_self]

theorem keepsAll_ofPoint : KeepsAll series mode i point (ofPoint series mode i point) ↔
    (wantedKeys series mode i point).Nodup := by
  constructor
  · intro h
    have hdistinct := h.distinct
    rwa [h.keys] at hdistinct
  · intro h
    have hprinted := printed_of_nodup h
    have hkeys : (printed (ofPoint series mode i point)).map Prod.fst =
        wantedKeys series mode i point := by
      rw [hprinted, List.map_cons, List.map_append, names_pairsAt]
      rfl
    have hdistinct : ((printed (ofPoint series mode i point)).map Prod.fst).Nodup := by
      rwa [hkeys]
    have hget {key : String} {v : Value}
        (hmem : (key, v) ∈ ("datetime", .string point.date) ::
          (pairsAt series i ++ totalPair mode point)) :
        get? key (printed (ofPoint series mode i point)) = some v :=
      (get?_eq_some_iff hdistinct).mpr (hprinted ▸ hmem)
    exact {
      keys := hkeys
      distinct := hdistinct
      datetime := hget List.mem_cons_self
      values := fun s hs p hp => hget <| List.mem_cons_of_mem _ <| List.mem_append_left _ <|
        List.mem_filterMap.mpr ⟨s, hs, by rw [hp]; rfl⟩
      total := fun norm hnorm => hget <| List.mem_cons_of_mem _ <| List.mem_append_right _ <| by
        simp [totalPair, hnorm] }

/-- A row keeps every part of its point just if their keys differ: no two series with a point there
have one name, and none has the name of the datetime or, where the total is shown, of the total. -/
theorem row_keeps_all_iff (series : List Series) (mode : TimelineMode) :
    ∀ i point, (axis series)[i]? = some point → ∃ row, (ofSeries series mode)[i]? = some row ∧
      row.toValue = .object (printed row) ∧
      (KeepsAll series mode i point row ↔
        (namesAt series i).Nodup ∧ "datetime" ∉ namesAt series i ∧
          ((shownTotal mode point).isSome → totalColumn ∉ namesAt series i)) := by
  intro i point hpoint
  refine ⟨_, getElem?_ofSeries hpoint, rfl, keepsAll_ofPoint.trans ?_⟩
  have hdatetime : "datetime" ≠ totalColumn := by decide
  unfold wantedKeys totalPair
  cases shownTotal mode point with
  | none => simp [and_comm]
  | some norm => simp [List.nodup_append', hdatetime, and_left_comm]

def namelessPayload : Members :=
  [("timeline", .array
    [.object [("data", .array [.object [("date", .string "d0"), ("value", .number (.integer 1))]])],
     .object [("data", .array [.object [("date", .string "d0"), ("value", .number (.integer 2))]])]])]

def namelessSeries : List Series :=
  [⟨"Unknown", [⟨"d0", some 1.0, none⟩]⟩, ⟨"Unknown", [⟨"d0", some 2.0, none⟩]⟩]

theorem namelessSeries_loses :
    ∃ row, (ofSeries namelessSeries .volume)[0]? = some row ∧
      ¬ KeepsAll namelessSeries .volume 0 ⟨"d0", some 1.0, none⟩ row := by
  obtain ⟨row, hrow, -, hkeeps⟩ :=
    row_keeps_all_iff namelessSeries .volume 0 ⟨"d0", some 1.0, none⟩ rfl
  exact ⟨row, hrow, fun h => absurd (hkeeps.mp h).1 (by decide)⟩

/-- Of two series without names only one has a column. -/
theorem lost_column_of_nameless :
    ∃ series, Series.ofPayload namelessPayload = .ok series ∧ series.length = 2 ∧
      (ofSeries series .volume).map printed =
        [[("datetime", .string "d0"), ("Unknown", .number (.real 2.0))]] :=
  ⟨namelessSeries, rfl, rfl, rfl⟩

end NewsSearch.Timeline.Row
