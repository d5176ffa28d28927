import NewsSearch.Proofs.Filter.Rules

/-!
# Checking against the rules

The check goes through the rules in their order. Each of its stages either keeps its rules or ends
with the error of the first that is broken, so the whole check does.
-/

namespace NewsSearch.FilterSet

variable {f : FilterSet}

/-! ## The time window -/

/-- The texts of the time window are those of the filters. -/
inductive Chosen (f : FilterSet) : WindowText → Prop
  | span {t : String} (h : Supplies f.timespan t) (hstart : ¬ Supplied f.startDate) :
      Chosen f (.span t)
  | range {a b : String} (ha : Supplies f.startDate a) (hb : Supplies f.endDate b)
      (hspan : ¬ Supplied f.timespan) : Chosen f (.range a b)

theorem Chosen.hasWindow {w : WindowText} (h : Chosen f w) : f.HasWindow := by
  cases h with
  | span h hstart => exact .inl ⟨⟨_, h⟩, hstart⟩
  | range ha hb hspan => exact .inr ⟨⟨_, ha⟩, ⟨_, hb⟩, hspan⟩

theorem windowText_cases (f : FilterSet) :
    (∃ e, f.windowText = .error e ∧ f.Breaks .window e) ∨
      ∃ w, f.windowText = .ok w ∧ Chosen f w := by
  unfold windowText
  cases hs : supplied f.startDate with
  | none =>
    have hstart := supplied_eq_none.mp hs
    cases ht : supplied f.timespan with
    | none =>
      have hspan := supplied_eq_none.mp ht
      cases he : supplied f.endDate with
      | none => exact .inl ⟨_, rfl, .noWindow hstart (supplied_eq_none.mp he) hspan⟩
      | some b =>
        have hend : Supplied f.endDate := ⟨b, supplied_eq_some.mp he⟩
        refine .inl ⟨_, rfl, .halfWindow ?_ (.inr (.inl hend)) fun h => hstart h.1⟩
        rintro (h | h)
        · exact hspan h.1
        · exact hstart h.1
    | some t => exact .inr ⟨_, by cases supplied f.endDate <;> rfl, .span (supplied_eq_some.mp ht) hstart⟩
  | some a =>
    have hstart : Supplied f.startDate := ⟨a, supplied_eq_some.mp hs⟩
    cases he : supplied f.endDate with
    | none =>
      have hend := supplied_eq_none.mp he
      refine .inl ⟨_, rfl, .halfWindow ?_ (.inl hstart) fun h => hend h.2.1⟩
      rintro (h | h)
      · exact h.2 hstart
      · exact hend h.2.1
    | some b =>
      cases ht : supplied f.timespan with
      | none =>
        exact .inr ⟨_, rfl, .range (supplied_eq_some.mp hs) (supplied_eq_some.mp he)
          (supplied_eq_none.mp ht)⟩
      | some t =>
        exact .inl ⟨_, rfl, .twoWindows hstart ⟨b, supplied_eq_some.mp he⟩
          ⟨t, supplied_eq_some.mp ht⟩⟩

/-! ## The tone -/

theorem checkSuppliedTone_cases (f : FilterSet) (field : ToneField) :
    (∃ e, checkSuppliedTone field (f.toneOf field) = .error e ∧ f.Breaks (.tone field) e) ∨
      checkSuppliedTone field (f.toneOf field) = .ok (dropEmpty (f.toneOf field)) ∧
        f.Keeps (.tone field) := by
  rw [← supplied_eq_dropEmpty]
  unfold checkSuppliedTone
  cases ht : supplied (f.toneOf field) with
  | none =>
    refine .inr ⟨rfl, fun e hb => ?_⟩
    cases hb with
    | noComparator h | equals h => exact supplied_eq_none.mp ht ⟨_, h⟩
  | some t =>
    have hsupplies := supplied_eq_some.mp ht
    dsimp only
    unfold checkTone
    simp only [List.contains_iff_mem]
    split
    case isTrue h => exact .inl ⟨_, rfl, .noComparator hsupplies h.1 h.2⟩
    case isFalse h =>
      have hcomparator : '<' ∈ t.toList ∨ '>' ∈ t.toList := by
        by_contra hnone
        exact h (not_or.mp hnone)
      split
      case isTrue hequals => exact .inl ⟨_, rfl, .equals hsupplies hcomparator hequals⟩
      case isFalse hequals =>
        refine .inr ⟨rfl, fun e hb => ?_⟩
        cases hb with
        | noComparator h' hless hgreater =>
          obtain rfl := h'.unique hsupplies
          exact h ⟨hless, hgreater⟩
        | equals h' _ hequals' =>
          obtain rfl := h'.unique hsupplies
          exact hequals hequals'

/-! ## Reading the window -/

theorem formatDate_cases (date : String) :
    (formatDate date = .error (.unsupportedDate date) ∧ ∀ r, formatDate date ≠ .ok r) ∨
      ∃ r, formatDate date = .ok r := by
  cases hr : formatDate date with
  | error e =>
    rw [eq_unsupportedDate_of_formatDate hr]
    exact .inl ⟨rfl, fun r => by simp⟩
  | ok r => exact .inr ⟨r, rfl⟩

theorem Keeps.date_of_ok {t r : String} (hr : formatDate t = .ok r) :
    (Supplies f.startDate t → f.Keeps .startDate) ∧ (Supplies f.endDate t → f.Keeps .endDate) := by
  constructor
  · intro ht e hb
    cases hb with
    | startDate ht' hformat =>
      obtain rfl := ht.unique ht'
      exact hformat r hr
  · intro ht e hb
    cases hb with
    | endDate _ ht' hformat =>
      obtain rfl := ht.unique ht'
      exact hformat r hr

theorem read_cases {w : WindowText} (hw : Chosen f w) (hbelow : f.KeepsBelow Rule.timespan.rank) :
    (∃ rule e, w.read = .error e ∧ f.FirstBroken rule e) ∨
      ∃ window, w.read = .ok window ∧ f.WindowIs window ∧ f.KeepsBelow Rule.limit.rank := by
  cases hw with
  | @span t ht hstart =>
    simp only [WindowText.read]
    cases hs : Timespan.parse t with
    | error e => exact .inl ⟨_, e, rfl, .timespan ht hs, hbelow⟩
    | ok s =>
      have htimespan : f.Keeps .timespan := by
        intro e hb
        cases hb with
        | timespan ht' hparse =>
          obtain rfl := ht.unique ht'
          rw [hs] at hparse
          cases hparse
      -- No date is read beside a timespan, so none can be wrong.
      have hfirst : f.Keeps .startDate := by
        intro e hb
        cases hb with
        | startDate h => exact hstart ⟨_, h⟩
      have hlast : f.Keeps .endDate := by
        intro e hb
        cases hb with
        | endDate hspan => exact hspan ⟨t, ht⟩
      exact .inr ⟨_, rfl, .span ht hs, ((hbelow.next htimespan).next hfirst).next hlast⟩
  | @range a b ha hb hspan =>
    simp only [WindowText.read]
    have htimespan : f.Keeps .timespan := by
      intro e h
      cases h with
      | timespan ht => exact hspan ⟨_, ht⟩
    have hbelow : f.KeepsBelow Rule.startDate.rank := hbelow.next htimespan
    rcases formatDate_cases a with ⟨hfirst, hnone⟩ | ⟨first, hfirst⟩
    · rw [hfirst]
      exact .inl ⟨_, _, rfl, .startDate ha hnone, hbelow⟩
    · have hbelow : f.KeepsBelow Rule.endDate.rank := hbelow.next ((Keeps.date_of_ok hfirst).1 ha)
      rcases formatDate_cases b with ⟨hlast, hnone⟩ | ⟨last, hlast⟩
      · rw [hfirst, hlast]
        exact .inl ⟨_, _, rfl, .endDate hspan hb hnone, hbelow⟩
      · rw [hfirst, hlast]
        exact .inr ⟨_, rfl, .range hspan ha hb hfirst hlast,
          hbelow.next ((Keeps.date_of_ok hlast).2 hb)⟩

/-! ## All stages -/

theorem validate_of_tones {w : WindowText} (hw : f.windowText = .ok w)
    (ht : checkSuppliedTone .signed f.tone = .ok (dropEmpty f.tone))
    (ha : checkSuppliedTone .absolute f.toneAbsolute = .ok (dropEmpty f.toneAbsolute)) :
    f.validate = w.read.bind fun window =>
      if maxRecordsLimit < f.maxRecords then .error (.tooManyRecords f.maxRecords)
      else .ok (f.checked window) := by
  unfold validate checked
  rw [hw, ht, ha, ← supplied_eq_dropEmpty f.near, ← supplied_eq_dropEmpty f.repeated]
  rfl

/-- The check ends with the error of the first broken rule, or all rules are kept. -/
theorem validate_cases (f : FilterSet) :
    (∃ rule e, f.validate = .error e ∧ f.FirstBroken rule e) ∨
      ∃ window, f.validate = .ok (f.checked window) ∧ f.WindowIs window ∧ f.KeepsRules := by
  -- After each stage the rules up to it are known to be kept.
  have hbelow : f.KeepsBelow Rule.window.rank := fun rule h => absurd h (Nat.not_lt_zero _)
  rcases f.windowText_cases with ⟨e, hw, hb⟩ | ⟨w, hw, hchosen⟩
  · refine .inl ⟨_, e, ?_, hb, hbelow⟩
    rw [validate, hw]
    rfl
  have hbelow : f.KeepsBelow (Rule.tone .signed).rank :=
    hbelow.next (keeps_window_iff.mpr hchosen.hasWindow)
  rcases f.checkSuppliedTone_cases .signed with ⟨e, ht, hb⟩ | ⟨ht, hk⟩ <;> rw [toneOf_signed] at ht
  · refine .inl ⟨_, e, ?_, hb, hbelow⟩
    rw [validate, hw, ht]
    rfl
  have hbelow : f.KeepsBelow (Rule.tone .absolute).rank := hbelow.next hk
  rcases f.checkSuppliedTone_cases .absolute with ⟨e, ha, hb⟩ | ⟨ha, hk⟩ <;>
    rw [toneOf_absolute] at ha
  · refine .inl ⟨_, e, ?_, hb, hbelow⟩
    rw [validate, hw, ht, ha]
    rfl
  have hbelow : f.KeepsBelow Rule.timespan.rank := hbelow.next hk
  rw [validate_of_tones hw ht ha]
  rcases read_cases hchosen hbelow with ⟨rule, e, hr, hb⟩ | ⟨window, hr, hwindow, hbelow⟩
  · exact .inl ⟨rule, e, by rw [hr]; rfl, hb⟩
  rw [hr, Except.bind]
  by_cases hlimit : maxRecordsLimit < f.maxRecords
  · exact .inl ⟨_, _, if_pos hlimit, .limit hlimit, hbelow⟩
  · have hlimit' : f.Keeps .limit := by
      intro e hb
      cases hb with
      | limit h => exact hlimit h
    have hall : f.KeepsBelow (Rule.limit.rank + 1) := hbelow.next hlimit'
    exact .inr ⟨window, if_neg hlimit, hwindow, keepsRules_iff.mpr fun rule =>
      hall rule (Nat.lt_succ_of_le rule.rank_le)⟩

theorem validate_eq_error {e : FilterError} :
    f.validate = .error e ↔ ∃ rule, f.FirstBroken rule e := by
  rcases f.validate_cases with ⟨rule, e', hv, hfirst⟩ | ⟨window, hv, -, hrules⟩ <;> rw [hv]
  · constructor
    · rintro ⟨⟩
      exact ⟨rule, hfirst⟩
    · rintro ⟨rule', h⟩
      rw [hfirst.unique h]
  · constructor
    · rintro ⟨⟩
    · rintro ⟨rule, h⟩
      exact absurd hrules h.not_keepsRules

theorem validate_eq_ok {v : ValidatedFilters} :
    f.validate = .ok v ↔ f.KeepsRules ∧ ∃ window, f.WindowIs window ∧ v = f.checked window := by
  rcases f.validate_cases with ⟨rule, e, hv, hfirst⟩ | ⟨window, hv, hwindow, hrules⟩ <;> rw [hv]
  · constructor
    · rintro ⟨⟩
    · rintro ⟨h, -⟩
      exact absurd h hfirst.not_keepsRules
  · constructor
    · rintro ⟨⟩
      exact ⟨hrules, window, hwindow, rfl⟩
    · rintro ⟨-, window', hwindow', rfl⟩
      rw [hwindow.unique hwindow']

theorem exists_validate_eq_ok : (∃ v, f.validate = .ok v) ↔ f.KeepsRules := by
  constructor
  · rintro ⟨v, h⟩
    exact (validate_eq_ok.mp h).1
  · intro h
    rcases f.validate_cases with ⟨rule, e, -, hfirst⟩ | ⟨window, hv, -, -⟩
    · exact absurd h hfirst.not_keepsRules
    · exact ⟨_, hv⟩

/-! ## Empty texts -/

theorem validate_of_dropsEmpty {g : FilterSet} (h : f.DropsEmpty g) : g.validate = f.validate := by
  unfold validate windowText checkSuppliedTone
  simp only [supplied_of_dropped h.startDate, supplied_of_dropped h.endDate,
    supplied_of_dropped h.timespan, supplied_of_dropped h.tone, supplied_of_dropped h.toneAbsolute,
    supplied_of_dropped h.near, supplied_of_dropped h.repeated, h.keywords, h.domains,
    h.domainsExact, h.countries, h.languages, h.themes, h.maxRecords]

/-- The check accepts exactly the filter sets that keep all rules, and gives them back with the
window read and the empty texts left out. Otherwise its error is that of the first broken rule,
which names the timespan, the date or the tone that breaks it. Leaving out empty texts beforehand
changes nothing. -/
theorem validate_decides (f : FilterSet) :
    ((∃ v, f.validate = .ok v) ↔ f.KeepsRules) ∧
    (∀ v, f.validate = .ok v ↔
      f.KeepsRules ∧ ∃ window, f.WindowIs window ∧ v = f.checked window) ∧
    (∀ e, f.validate = .error e ↔ ∃ rule, f.FirstBroken rule e) ∧
    (∀ e, f.Breaks .timespan e → e.timespan? = f.timespan) ∧
    ∀ g, f.DropsEmpty g → g.validate = f.validate := by
  refine ⟨exists_validate_eq_ok, fun v => validate_eq_ok, fun e => validate_eq_error, ?_,
    fun g => validate_of_dropsEmpty⟩
  intro e h
  cases h with
  | timespan ht hparse => rw [Timespan.timespan?_of_parse hparse, ht.1]

example :
    ({ ofTimespan "30min" with tone := some "5", maxRecords := 500 } : FilterSet).validate =
      .error (.toneWithoutComparator .signed "5") := rfl

end NewsSearch.FilterSet
