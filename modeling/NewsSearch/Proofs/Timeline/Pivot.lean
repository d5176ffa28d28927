import NewsSearch.Timeline.Row
import NewsSearch.Proofs.Json.Members
import Mathlib.Data.List.Forall2

/-!
# From series to rows

What each row shows, said from the series alone: its names, where they stand, and whose value stands
under each. `ofSeries_pivots` says so for series of any lengths, with names that may repeat or be
that of the total.
-/

namespace NewsSearch.Timeline.Row

open Json

/-! ## What a row shows -/

/-- The points that have a row. -/
def axis (series : List Series) : List Point := (series.head?.map Series.points).getD []

/-- The names of the series that have a point `i`, in the order of the series. -/
def namesAt (series : List Series) (i : Nat) : List String :=
  (series.filter fun s => s.points[i]?.isSome).map Series.name

/-- Point `i` of the last series of that name that has one. -/
def lastPoint? (series : List Series) (i : Nat) (name : String) : Option Point :=
  ((series.filter (·.name == name)).filterMap (·.points[i]?)).getLast?

/-- A point's value as JSON. A missing value is zero. -/
def pointValue (p : Point) : Value := .ofFloat (p.value.getD 0.0)

/-- The number of all articles, where a row shows it. -/
def shownTotal (mode : TimelineMode) (point : Point) : Option Float :=
  if mode = .rawVolume then point.norm else none

/-- The row at point `i` of the first series, which is `point`. -/
structure Pivots (series : List Series) (mode : TimelineMode) (i : Nat) (point : Point) (row : Row) :
    Prop where
  datetime : row.datetime = point.date
  /-- The total comes last, unless a series has its name. -/
  names : row.columns.map Prod.fst = (namesAt series i).eraseDups ++
    if (shownTotal mode point).isSome ∧ totalColumn ∉ namesAt series i then [totalColumn] else []
  distinct : (row.columns.map Prod.fst).Nodup
  total : ∀ norm, shownTotal mode point = some norm →
    get? totalColumn row.columns = some (.ofFloat norm)
  values : ∀ name, shownTotal mode point = none ∨ name ≠ totalColumn →
    get? name row.columns = (lastPoint? series i name).map pointValue

/-- Two rows differ in the column with the total, if at all. -/
def AgreeButTotal (row row' : Row) : Prop :=
  row.datetime = row'.datetime ∧
    row.columns.filter (·.1 != totalColumn) = row'.columns.filter (·.1 != totalColumn)

/-! ## The columns of the series -/

variable (series : List Series) (i : Nat)

theorem names_pairsAt : (pairsAt series i).map Prod.fst = namesAt series i := by
  induction series with
  | nil => rfl
  | cons s series ih =>
    unfold pairsAt namesAt at ih ⊢
    cases hp : s.points[i]? <;> simp [hp, ih]

theorem lastValue?_pairsAt (name : String) :
    lastValue? name (pairsAt series i) = (lastPoint? series i name).map pointValue := by
  have hvalues : ((pairsAt series i).filter (·.1 == name)).map Prod.snd =
      ((series.filter (·.name == name)).filterMap (·.points[i]?)).map pointValue := by
    induction series with
    | nil => rfl
    | cons s series ih =>
      unfold pairsAt at ih ⊢
      by_cases hname : s.name = name <;> cases hp : s.points[i]? <;>
        simp [hname, hp, ih, pointValue]
  rw [lastValue?, hvalues, List.getLast?_map, lastPoint?]

/-! ## The column of the total -/

theorem addTotal_eq (mode : TimelineMode) (point : Point) (columns : Members) :
    addTotal mode point columns =
      match shownTotal mode point with
      | some norm => put totalColumn (.ofFloat norm) columns
      | none => columns := by
  cases mode <;> cases h : point.norm <;> simp [addTotal, shownTotal, h]

theorem filter_addTotal (mode : TimelineMode) (point : Point) (columns : Members) :
    (addTotal mode point columns).filter (·.1 != totalColumn) =
      columns.filter (·.1 != totalColumn) := by
  rw [addTotal_eq]
  cases shownTotal mode point with
  | none => rfl
  | some norm => exact filter_ne_put _ _ _

theorem pivots_ofPoint (mode : TimelineMode) (point : Point) :
    Pivots series mode i point (ofPoint series mode i point) := by
  have hkeys : (ofPairs (pairsAt series i)).map Prod.fst = (namesAt series i).eraseDups := by
    rw [keys_ofPairs, names_pairsAt]
  have hnodup := nodup_keys_ofPairs (pairsAt series i)
  have hvalue (name : String) : get? name (ofPairs (pairsAt series i)) =
      (lastPoint? series i name).map pointValue := by
    rw [get?_ofPairs, lastValue?_pairsAt]
  have hcolumns : (ofPoint series mode i point).columns =
      addTotal mode point (ofPairs (pairsAt series i)) := rfl
  rw [addTotal_eq] at hcolumns
  cases ht : shownTotal mode point with
  | none =>
    rw [ht] at hcolumns
    exact {
      datetime := rfl
      names := by simp [hcolumns, hkeys, ht]
      distinct := by rwa [hcolumns]
      total := fun norm h => by simp [ht] at h
      values := fun name _ => by rw [hcolumns, hvalue] }
  | some norm =>
    rw [ht] at hcolumns
    exact {
      datetime := rfl
      names := by
        rw [hcolumns, keys_put, hkeys, ht]
        by_cases h : totalColumn ∈ namesAt series i <;> simp [h]
      distinct := by
        rw [hcolumns]
        exact nodup_keys_put hnodup
      total := fun norm' h => by
        rw [ht] at h
        obtain rfl := Option.some.inj h
        rw [hcolumns, get?_put, if_pos rfl]
      values := fun name h => by
        have hname : name ≠ totalColumn := h.resolve_left (by simp [ht])
        rw [hcolumns, get?_put, if_neg hname.symm, hvalue] }

/-! ## All rows -/

theorem ofSeries_eq_mapIdx (mode : TimelineMode) :
    ofSeries series mode = (axis series).mapIdx fun i point => ofPoint series mode i point := by
  cases series <;> rfl

theorem ofPoint_of_not_raw {mode mode' : TimelineMode} (h : mode ≠ .rawVolume)
    (h' : mode' ≠ .rawVolume) (point : Point) :
    ofPoint series mode i point = ofPoint series mode' i point := by
  simp only [ofPoint, addTotal_eq, shownTotal, if_neg h, if_neg h']

theorem agree_ofPoint (mode mode' : TimelineMode) (point : Point) :
    AgreeButTotal (ofPoint series mode i point) (ofPoint series mode' i point) :=
  ⟨rfl, by simp only [ofPoint, filter_addTotal]⟩

/-- There is one row for each point of the first series, which shows the series that have a point
there and, for raw volumes, the number of all articles. The other modes give equal rows, and no mode
changes more than the column with the total. -/
theorem ofSeries_pivots (series : List Series) (mode : TimelineMode) :
    (ofSeries series mode).length = (axis series).length ∧
    (∀ i point, (axis series)[i]? = some point →
      ∃ row, (ofSeries series mode)[i]? = some row ∧ Pivots series mode i point row) ∧
    (∀ mode', mode ≠ .rawVolume → mode' ≠ .rawVolume →
      ofSeries series mode = ofSeries series mode') ∧
    ∀ mode', List.Forall₂ AgreeButTotal (ofSeries series mode) (ofSeries series mode') := by
  simp only [ofSeries_eq_mapIdx]
  refine ⟨List.length_mapIdx, ?_, ?_, ?_⟩
  · intro i point hpoint
    refine ⟨ofPoint series mode i point, ?_, pivots_ofPoint series i mode point⟩
    rw [List.getElem?_mapIdx, hpoint]
    rfl
  · intro mode' h h'
    congr 1
    funext i point
    exact ofPoint_of_not_raw series i h h' point
  · intro mode'
    rw [List.forall₂_iff_get]
    refine ⟨by rw [List.length_mapIdx, List.length_mapIdx], fun i h h' => ?_⟩
    simp only [List.get_eq_getElem, List.getElem_mapIdx]
    exact agree_ofPoint series i mode mode' _

example :
    (ofSeries [⟨"A", [⟨"d0", none, some 2.0⟩, ⟨"d1", some 1.0, none⟩]⟩, ⟨totalColumn, [⟨"", none, none⟩]⟩,
        ⟨"B", []⟩, ⟨"A", [⟨"", some 3.0, none⟩]⟩] .rawVolume).map
      (fun row => (row.datetime, row.columns.map Prod.fst)) =
      [("d0", ["A", "All Articles"]), ("d1", ["A"])] := rfl

end NewsSearch.Timeline.Row
