import NewsSearch.Proofs.Client.Search
import NewsSearch.Proofs.Filter.Validation
import NewsSearch.Proofs.Query.Grammar

/-!
# Searches for the last hour

The timespan of such a search is fixed before the filters are checked. So the caller's own cannot be
seen in what is sent or found, nor can an end date without a start date, and of the rules of the
time window only those about a start date can still be broken.
-/

namespace NewsSearch

namespace FilterSet

variable {f g : FilterSet}

/-- The filter sets differ at most in the timespan and, without a start date, in the end date. -/
structure AlikeButTimespan (f g : FilterSet) : Prop where
  others : g = { f with timespan := g.timespan, endDate := g.endDate }
  endDate : Supplied f.startDate → g.endDate = f.endDate

theorem AlikeButTimespan.withTimespan (h : f.AlikeButTimespan g) (timespan : Option String) :
    { g with timespan := timespan } = { f with timespan := timespan, endDate := g.endDate } := by
  rw [h.others]

/-! ## Beside a timespan -/

variable {t : String} {s : Timespan}

theorem windowText_endDate (hspan : Supplies f.timespan t) (hstart : ¬ Supplied f.startDate)
    (endDate : Option String) : windowText { f with endDate := endDate } = f.windowText := by
  unfold windowText
  simp only [supplied_eq_none.mpr hstart, supplied_eq_some.mpr hspan]

/-- An end date is looked at only with a start date. -/
theorem validate_endDate (hspan : Supplies f.timespan t) (hstart : ¬ Supplied f.startDate)
    (endDate : Option String) : validate { f with endDate := endDate } = f.validate := by
  unfold validate
  rw [windowText_endDate hspan hstart]

/-- What can still be wrong beside a timespan that can be read: a start date is one window too many,
and without one only the tones and the limit are left. -/
inductive BesideTimespan (f : FilterSet) : FilterError → Prop
  | ambiguous (hstart : Supplied f.startDate) (hend : Supplied f.endDate) :
      BesideTimespan f .ambiguousTimeWindow
  | incomplete (hstart : Supplied f.startDate) (hend : ¬ Supplied f.endDate) :
      BesideTimespan f .incompleteDateRange
  | noComparator (hstart : ¬ Supplied f.startDate) (field : ToneField) (tone : String) :
      BesideTimespan f (.toneWithoutComparator field tone)
  | equals (hstart : ¬ Supplied f.startDate) (field : ToneField) (tone : String) :
      BesideTimespan f (.toneWithEquals field tone)
  | limit (hstart : ¬ Supplied f.startDate) : BesideTimespan f (.tooManyRecords f.maxRecords)

theorem FirstBroken.besideTimespan {rule : Rule} {e : FilterError} (hspan : Supplies f.timespan t)
    (hparse : Timespan.parse t = .ok s) (h : f.FirstBroken rule e) : f.BesideTimespan e := by
  have hsupplied : Supplied f.timespan := ⟨t, hspan⟩
  -- After the window rule there is one window, which is the timespan.
  have hstart (hrank : Rule.window.rank < rule.rank) : ¬ Supplied f.startDate := by
    have hwindow : f.HasWindow := keeps_window_iff.mp (h.2 .window hrank)
    rcases hwindow with ⟨-, hstart⟩ | ⟨-, -, hnone⟩
    · exact hstart
    · exact absurd hsupplied hnone
  cases h.1 with
  | noWindow _ _ hnone => exact absurd hsupplied hnone
  | twoWindows hs he => exact .ambiguous hs he
  | halfWindow hnot _ hall =>
    have hs : Supplied f.startDate := by
      by_contra hs
      exact hnot (.inl ⟨hsupplied, hs⟩)
    exact .incomplete hs fun he => hall ⟨hs, he, hsupplied⟩
  | @noComparator field => exact .noComparator (hstart (by cases field <;> decide)) _ _
  | @equals field => exact .equals (hstart (by cases field <;> decide)) _ _
  | timespan ht herror =>
    obtain rfl := hspan.unique ht
    rw [hparse] at herror
    cases herror
  | startDate hs => exact absurd ⟨_, hs⟩ (hstart (by decide))
  | endDate hnone => exact absurd hsupplied hnone
  | limit => exact .limit (hstart (by decide))

theorem validate_ambiguous (hspan : Supplies f.timespan t) (hstart : Supplied f.startDate)
    (hend : Supplied f.endDate) : f.validate = .error .ambiguousTimeWindow := by
  rw [validate_eq_error]
  exact ⟨.window, .twoWindows hstart hend ⟨t, hspan⟩, fun _ h => absurd h (Nat.not_lt_zero _)⟩

theorem validate_incomplete (hstart : Supplied f.startDate) (hend : ¬ Supplied f.endDate) :
    f.validate = .error .incompleteDateRange := by
  rw [validate_eq_error]
  refine ⟨.window, .halfWindow ?_ (.inl hstart) fun h => hend h.2.1, fun _ h =>
    absurd h (Nat.not_lt_zero _)⟩
  rintro (⟨-, hnone⟩ | ⟨-, he, -⟩)
  · exact hnone hstart
  · exact hend he

theorem params_of_timespan {v : ValidatedFilters} (hspan : Supplies f.timespan t)
    (hparse : Timespan.parse t = .ok s) (h : f.validate = .ok v) :
    (Query.compile v).params =
      [("timespan", s.text), ("maxrecords", Nat.repr f.maxRecords.toNat)] := by
  obtain ⟨-, window, hwindow, rfl⟩ := validate_eq_ok.mp h
  have hparams := Query.paramsOf_compile (f.checked window)
  generalize (Query.compile (f.checked window)).params = params at hparams ⊢
  cases hwindow with
  | span ht hs =>
    obtain rfl := hspan.unique ht
    obtain rfl := Except.ok.inj (hparse.symm.trans hs)
    cases hparams
    rfl
  | range hnone => exact absurd ⟨t, hspan⟩ hnone

end FilterSet

namespace Search

open FilterSet

variable {f g : FilterSet}

/-! ## The fixed timespan -/

theorem supplies_lastHour (filters : Option FilterSet) :
    Supplies (Search.lastHour filters).filters.timespan lastHourTimespan := ⟨rfl, by decide⟩

theorem parse_lastHourTimespan :
    Timespan.parse lastHourTimespan = .ok ⟨"1", .hours, lastHourTimespan⟩ := rfl

theorem validate_lastHour_congr (h : f.AlikeButTimespan g) :
    (Search.lastHour (some f)).filters.validate = (Search.lastHour (some g)).filters.validate := by
  have hg : (Search.lastHour (some g)).filters =
      { (Search.lastHour (some f)).filters with endDate := g.endDate } :=
    h.withTimespan (some lastHourTimespan)
  rw [hg]
  by_cases hstart : Supplied f.startDate
  · rw [h.endDate hstart]
    rfl
  · exact (validate_endDate (supplies_lastHour (some f)) hstart g.endDate).symm

/-- Searches of one mode whose filters check alike cannot be told apart. -/
theorem run_congr {a b : Search} (hmode : a.mode = b.mode)
    (hfilters : a.filters.validate = b.filters.validate) (transport : Transport)
    (before : List Request) : a.run transport before = b.run transport before := by
  cases hv : b.filters.validate with
  | error e => rw [run_of_error _ _ hv, run_of_error _ _ (hfilters.trans hv)]
  | ok v => rw [run_of_ok _ _ hv, run_of_ok _ _ (hfilters.trans hv), hmode]

/-! ## What is sent and found -/

/-- What a search for the last hour sends, and which faults of the filters it can still find. -/
structure CoversLastHour (f : FilterSet) (before : List Request) (o : Outcome) : Prop where
  sent : o.sent = before ∨ ∃ request, o.sent = before ++ [request] ∧
    request.query.params =
      [("timespan", lastHourTimespan), ("maxrecords", Nat.repr f.maxRecords.toNat)]
  ambiguous_iff : o.result = .error (.filters .ambiguousTimeWindow) ↔
    Supplied f.startDate ∧ Supplied f.endDate
  incomplete_iff : o.result = .error (.filters .incompleteDateRange) ↔
    Supplied f.startDate ∧ ¬ Supplied f.endDate
  noTimeWindow : o.result ≠ .error (.filters .noTimeWindow)
  timespan : ∀ e, o.result = .error (.filters e) → e.timespan? = none
  date : ∀ date, o.result ≠ .error (.filters (.unsupportedDate date))

theorem result_eq_filters_iff {transport : Transport} {before : List Request} {s : Search}
    {e : FilterError} :
    (s.run transport before).result = .error (.filters e) ↔ s.filters.validate = .error e := by
  have haccounted := accounted_run transport before s
  constructor
  · intro h
    have hrefused : (s.run transport before).isRefused := by
      unfold Outcome.isRefused
      rw [h]
      rfl
    obtain ⟨e', he'⟩ := haccounted.refused_iff.mp hrefused
    cases h.symm.trans (haccounted.error e' he')
    exact he'
  · exact haccounted.error e

theorem coversLastHour_run (transport : Transport) (before : List Request)
    (filters : Option FilterSet) : CoversLastHour (filters.getD .empty) before
      ((Search.lastHour filters).run transport before) := by
  have hspan := supplies_lastHour filters
  have hleft {e : FilterError}
      (h : ((Search.lastHour filters).run transport before).result = .error (.filters e)) :
      (Search.lastHour filters).filters.BesideTimespan e := by
    obtain ⟨rule, hfirst⟩ := validate_eq_error.mp (result_eq_filters_iff.mp h)
    exact hfirst.besideTimespan hspan parse_lastHourTimespan
  refine ⟨?_, ⟨?_, ?_⟩, ⟨?_, ?_⟩, ?_, ?_, ?_⟩
  · cases hv : (Search.lastHour filters).filters.validate with
    | error e => exact .inl (by rw [run_of_error _ _ hv])
    | ok v =>
      refine .inr ⟨_, (accounted_run transport before _).sent v hv, ?_⟩
      exact params_of_timespan hspan parse_lastHourTimespan hv
  · intro h
    cases hleft h with
    | ambiguous hstart hend => exact ⟨hstart, hend⟩
  · rintro ⟨hstart, hend⟩
    exact result_eq_filters_iff.mpr (validate_ambiguous hspan hstart hend)
  · intro h
    cases hleft h with
    | incomplete hstart hend => exact ⟨hstart, hend⟩
  · rintro ⟨hstart, hend⟩
    exact result_eq_filters_iff.mpr (validate_incomplete hstart hend)
  · intro h
    cases hleft h
  · intro e h
    cases hleft h <;> rfl
  · intro date h
    cases hleft h

/-- A search for the last hour does not depend on the timespan of its filters, nor on their end date
if there is no start date. It asks for the last hour and for no range of dates. Its filters are
refused for their time window just if they have a start date, whatever else they hold. -/
theorem lastHour_ignores_timespan :
    (∀ f g : FilterSet, f.AlikeButTimespan g → ∀ transport before,
      (Search.lastHour (some f)).run transport before =
        (Search.lastHour (some g)).run transport before) ∧
    (∀ transport before, (Search.lastHour none).run transport before =
      (Search.lastHour (some .empty)).run transport before) ∧
    ∀ filters transport before, CoversLastHour (filters.getD .empty) before
      ((Search.lastHour filters).run transport before) := by
  refine ⟨?_, fun _ _ => rfl, fun filters transport before =>
    coversLastHour_run transport before filters⟩
  intro f g h transport before
  apply run_congr
  · rfl
  · exact validate_lastHour_congr h

end Search

end NewsSearch
