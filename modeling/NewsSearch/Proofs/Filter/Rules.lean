import NewsSearch.Filter.Validated
import Mathlib.Tactic.Common

/-!
# The rules of filter sets

Each rule says on its own when a filter set breaks it and with which error. The check accepts exactly
the filter sets that keep all rules, and its error is that of the first broken rule.
-/

namespace NewsSearch

/-- The timespan that an error is about. -/
def FilterError.timespan? : FilterError → Option String
  | .timespanUnparseable timespan => some timespan
  | .timespanUnit timespan _ => some timespan
  | .timespanTooShort timespan => some timespan
  | _ => none

theorem Timespan.timespan?_of_parse {t : String} {e : FilterError} (h : Timespan.parse t = .error e) :
    e.timespan? = some t := by
  unfold Timespan.parse at h
  dsimp only at h
  split at h
  · cases h
    rfl
  · split at h
    · cases h
      rfl
    · split at h
      · cases h
        rfl
      · cases h

theorem eq_unsupportedDate_of_formatDate {date : String} {e : FilterError}
    (h : formatDate date = .error e) : e = .unsupportedDate date := by
  unfold formatDate at h
  dsimp only at h
  split at h
  · cases h
  · split at h
    · cases h
    · split at h
      · cases h
      · cases h
        rfl

namespace FilterSet

/-! ## The rules -/

/-- The text is given, and is not empty. -/
def Supplies (filter : Option String) (text : String) : Prop := filter = some text ∧ text ≠ ""

def Supplied (filter : Option String) : Prop := ∃ text, Supplies filter text

/-- The tone filter of that name. -/
def toneOf (f : FilterSet) : ToneField → Option String
  | .signed => f.tone
  | .absolute => f.toneAbsolute

@[simp] theorem toneOf_signed (f : FilterSet) : f.toneOf .signed = f.tone := rfl

@[simp] theorem toneOf_absolute (f : FilterSet) : f.toneOf .absolute = f.toneAbsolute := rfl

/-- What is checked, one thing after another. -/
inductive Rule
  | window
  | tone (field : ToneField)
  | timespan
  | startDate
  | endDate
  | limit

/-- The place of a rule in the order. -/
def Rule.rank : Rule → Nat
  | .window => 0
  | .tone .signed => 1
  | .tone .absolute => 2
  | .timespan => 3
  | .startDate => 4
  | .endDate => 5
  | .limit => 6

variable (f : FilterSet)

/-- There is one time window: a timespan, or both dates. -/
def HasWindow : Prop :=
  (Supplied f.timespan ∧ ¬ Supplied f.startDate) ∨
    (Supplied f.startDate ∧ Supplied f.endDate ∧ ¬ Supplied f.timespan)

/-- A rule is broken, which is the error. -/
inductive Breaks : Rule → FilterError → Prop
  | noWindow (hs : ¬ Supplied f.startDate) (he : ¬ Supplied f.endDate)
      (ht : ¬ Supplied f.timespan) : Breaks .window .noTimeWindow
  | twoWindows (hs : Supplied f.startDate) (he : Supplied f.endDate) (ht : Supplied f.timespan) :
      Breaks .window .ambiguousTimeWindow
  | halfWindow (h : ¬ f.HasWindow)
      (hsome : Supplied f.startDate ∨ Supplied f.endDate ∨ Supplied f.timespan)
      (hall : ¬ (Supplied f.startDate ∧ Supplied f.endDate ∧ Supplied f.timespan)) :
      Breaks .window .incompleteDateRange
  | noComparator {field : ToneField} {t : String} (h : Supplies (f.toneOf field) t)
      (hless : '<' ∉ t.toList) (hgreater : '>' ∉ t.toList) :
      Breaks (.tone field) (.toneWithoutComparator field t)
  | equals {field : ToneField} {t : String} (h : Supplies (f.toneOf field) t)
      (hcomparator : '<' ∈ t.toList ∨ '>' ∈ t.toList) (hequals : '=' ∈ t.toList) :
      Breaks (.tone field) (.toneWithEquals field t)
  | timespan {t : String} {e : FilterError} (h : Supplies f.timespan t)
      (hparse : Timespan.parse t = .error e) : Breaks .timespan e
  | startDate {t : String} (h : Supplies f.startDate t) (hformat : ∀ r, formatDate t ≠ .ok r) :
      Breaks .startDate (.unsupportedDate t)
  /-- An end date beside a timespan is not looked at. -/
  | endDate {t : String} (hspan : ¬ Supplied f.timespan) (h : Supplies f.endDate t)
      (hformat : ∀ r, formatDate t ≠ .ok r) : Breaks .endDate (.unsupportedDate t)
  | limit (h : maxRecordsLimit < f.maxRecords) : Breaks .limit (.tooManyRecords f.maxRecords)

def Keeps (rule : Rule) : Prop := ∀ e, ¬ f.Breaks rule e

/-- All rules before the `n`th are kept. -/
def KeepsBelow (n : Nat) : Prop := ∀ rule : Rule, rule.rank < n → f.Keeps rule

/-- The rule is broken and all rules before it are kept. -/
def FirstBroken (rule : Rule) (e : FilterError) : Prop :=
  f.Breaks rule e ∧ f.KeepsBelow rule.rank

/-- All rules at once, said of the filters alone. -/
structure KeepsRules : Prop where
  window : f.HasWindow
  tones : ∀ field t, Supplies (f.toneOf field) t →
    ('<' ∈ t.toList ∨ '>' ∈ t.toList) ∧ '=' ∉ t.toList
  timespan : ∀ t, Supplies f.timespan t → ∃ s, Timespan.parse t = .ok s
  dates : ¬ Supplied f.timespan → ∀ t, Supplies f.startDate t ∨ Supplies f.endDate t →
    ∃ r, formatDate t = .ok r
  limit : f.maxRecords ≤ maxRecordsLimit

/-! ## Checked filters -/

/-- An empty text counts as none. -/
def dropEmpty (filter : Option String) : Option String := if filter = some "" then none else filter

/-- The time window of the filters after reading. -/
inductive WindowIs : TimeWindow → Prop
  | span {t : String} {s : Timespan} (h : Supplies f.timespan t) (hparse : Timespan.parse t = .ok s) :
      WindowIs (.span s)
  | range {a b first last : String} (hspan : ¬ Supplied f.timespan) (ha : Supplies f.startDate a)
      (hb : Supplies f.endDate b) (hfirst : formatDate a = .ok first)
      (hlast : formatDate b = .ok last) : WindowIs (.range first last)

/-- The filters as they are, but for the window and without empty texts. -/
def checked (window : TimeWindow) : ValidatedFilters :=
  { window, tone := dropEmpty f.tone, toneAbsolute := dropEmpty f.toneAbsolute
    keywords := f.keywords, domains := f.domains, domainsExact := f.domainsExact
    countries := f.countries, languages := f.languages, themes := f.themes
    near := dropEmpty f.near, repeated := dropEmpty f.repeated
    maxRecords := f.maxRecords }

/-- The same filter, or none in place of an empty text. -/
def Dropped (filter filter' : Option String) : Prop :=
  filter' = filter ∨ filter = some "" ∧ filter' = none

/-- The same filter set, but for some empty texts. -/
structure DropsEmpty (g : FilterSet) : Prop where
  startDate : Dropped f.startDate g.startDate
  endDate : Dropped f.endDate g.endDate
  timespan : Dropped f.timespan g.timespan
  keywords : g.keywords = f.keywords
  domains : g.domains = f.domains
  domainsExact : g.domainsExact = f.domainsExact
  countries : g.countries = f.countries
  languages : g.languages = f.languages
  themes : g.themes = f.themes
  tone : Dropped f.tone g.tone
  toneAbsolute : Dropped f.toneAbsolute g.toneAbsolute
  near : Dropped f.near g.near
  repeated : Dropped f.repeated g.repeated
  maxRecords : g.maxRecords = f.maxRecords

variable {f}

/-! ## Supplied filters -/

theorem supplied_eq_some {filter : Option String} {t : String} :
    supplied filter = some t ↔ Supplies filter t := by
  simp [supplied, Supplies, Option.filter_eq_some_iff]

theorem supplied_eq_none {filter : Option String} : supplied filter = none ↔ ¬ Supplied filter := by
  simp only [Supplied, ← supplied_eq_some, ← Option.isSome_iff_exists, Option.not_isSome_iff_eq_none]

theorem Supplies.unique {filter : Option String} {a b : String} (ha : Supplies filter a)
    (hb : Supplies filter b) : a = b :=
  Option.some.inj (ha.1.symm.trans hb.1)

theorem supplied_eq_dropEmpty (filter : Option String) : supplied filter = dropEmpty filter := by
  cases filter with
  | none => rfl
  | some t => by_cases h : t = "" <;> simp [supplied, dropEmpty, h]

theorem supplied_of_dropped {filter filter' : Option String} (h : Dropped filter filter') :
    supplied filter' = supplied filter := by
  rcases h with rfl | ⟨rfl, rfl⟩
  · rfl
  · decide

/-! ## The order of the rules -/

theorem Rule.rank_inj {a b : Rule} (h : a.rank = b.rank) : a = b := by
  unfold Rule.rank at h
  split at h <;> split at h <;> first | rfl | cases h

/-- The limit is checked last. -/
theorem Rule.rank_le (rule : Rule) : rule.rank ≤ Rule.limit.rank := by
  unfold Rule.rank
  split <;> decide

theorem KeepsBelow.next {rule : Rule} (h : f.KeepsBelow rule.rank) (hrule : f.Keeps rule) :
    f.KeepsBelow (rule.rank + 1) := by
  intro other hlt
  rcases Nat.lt_succ_iff_lt_or_eq.mp hlt with hlt | heq
  · exact h other hlt
  · rw [Rule.rank_inj heq]
    exact hrule

/-! ## One error, one window -/

theorem Breaks.unique {rule : Rule} {e e' : FilterError} (h : f.Breaks rule e)
    (h' : f.Breaks rule e') : e = e' := by
  cases h with
  | noWindow hs he ht =>
    cases h' with
    | noWindow => rfl
    | twoWindows hs' => exact absurd hs' hs
    | halfWindow _ hsome => rcases hsome with h | h | h <;> contradiction
  | twoWindows hs he ht =>
    cases h' with
    | noWindow hs' => exact absurd hs hs'
    | twoWindows => rfl
    | halfWindow _ _ hall => exact absurd ⟨hs, he, ht⟩ hall
  | halfWindow _ hsome hall =>
    cases h' with
    | noWindow => rcases hsome with h | h | h <;> contradiction
    | twoWindows hs he ht => exact absurd ⟨hs, he, ht⟩ hall
    | halfWindow => rfl
  | noComparator h hless hgreater =>
    cases h' with
    | noComparator h' => rw [h.unique h']
    | equals h' hcomparator =>
      obtain rfl := h.unique h'
      exact absurd hcomparator (not_or.mpr ⟨hless, hgreater⟩)
  | equals h hcomparator =>
    cases h' with
    | noComparator h' hless hgreater =>
      obtain rfl := h.unique h'
      exact absurd hcomparator (not_or.mpr ⟨hless, hgreater⟩)
    | equals h' => rw [h.unique h']
  | timespan h hparse =>
    cases h' with
    | timespan h' hparse' =>
      obtain rfl := h.unique h'
      exact Except.error.inj (hparse.symm.trans hparse')
  | startDate h =>
    cases h' with
    | startDate h' => rw [h.unique h']
  | endDate _ h =>
    cases h' with
    | endDate _ h' => rw [h.unique h']
  | limit => cases h'; rfl

theorem FirstBroken.unique {rule rule' : Rule} {e e' : FilterError} (h : f.FirstBroken rule e)
    (h' : f.FirstBroken rule' e') : e = e' := by
  rcases Nat.lt_trichotomy rule.rank rule'.rank with hlt | heq | hlt
  · exact absurd h.1 (h'.2 rule hlt e)
  · obtain rfl := Rule.rank_inj heq
    exact h.1.unique h'.1
  · exact absurd h'.1 (h.2 rule' hlt e')

theorem WindowIs.unique {a b : TimeWindow} (ha : f.WindowIs a) (hb : f.WindowIs b) : a = b := by
  cases ha with
  | span ht hs =>
    cases hb with
    | span ht' hs' =>
      obtain rfl := ht.unique ht'
      rw [Except.ok.inj (hs.symm.trans hs')]
    | range hspan => exact absurd ⟨_, ht⟩ hspan
  | range hspan ha hb' hfirst hlast =>
    cases hb with
    | span ht => exact absurd ⟨_, ht⟩ hspan
    | range _ ha' hb'' hfirst' hlast' =>
      obtain rfl := ha.unique ha'
      obtain rfl := hb'.unique hb''
      rw [Except.ok.inj (hfirst.symm.trans hfirst'), Except.ok.inj (hlast.symm.trans hlast')]

/-! ## All rules together -/

theorem keeps_window_iff : f.Keeps .window ↔ f.HasWindow := by
  constructor
  · intro h
    by_contra hwindow
    by_cases hall : Supplied f.startDate ∧ Supplied f.endDate ∧ Supplied f.timespan
    · exact h _ (.twoWindows hall.1 hall.2.1 hall.2.2)
    · by_cases hsome : Supplied f.startDate ∨ Supplied f.endDate ∨ Supplied f.timespan
      · exact h _ (.halfWindow hwindow hsome hall)
      · obtain ⟨hs, he, ht⟩ := not_or.mp hsome |>.imp_right not_or.mp
        exact h _ (.noWindow hs he ht)
  · intro h e hb
    cases hb with
    | noWindow hs he ht => rcases h with h | h <;> simp_all
    | twoWindows hs he ht => rcases h with h | h <;> simp_all
    | halfWindow hwindow => exact hwindow h

theorem keepsRules_iff : f.KeepsRules ↔ ∀ rule, f.Keeps rule := by
  constructor
  · intro h rule e hb
    cases hb with
    | noWindow hs he ht => exact keeps_window_iff.mpr h.window _ (.noWindow hs he ht)
    | twoWindows hs he ht => exact keeps_window_iff.mpr h.window _ (.twoWindows hs he ht)
    | halfWindow hwindow => exact hwindow h.window
    | noComparator ht hless hgreater =>
      exact absurd (h.tones _ _ ht).1 (not_or.mpr ⟨hless, hgreater⟩)
    | equals ht _ hequals => exact (h.tones _ _ ht).2 hequals
    | timespan ht hparse =>
      obtain ⟨s, hs⟩ := h.timespan _ ht
      rw [hs] at hparse
      cases hparse
    | startDate ht hformat =>
      -- A start date is looked at only without a timespan, as the window is kept.
      have hspan : ¬ Supplied f.timespan := by
        rcases h.window with ⟨-, hs⟩ | ⟨-, -, hspan⟩
        · exact absurd ⟨_, ht⟩ hs
        · exact hspan
      obtain ⟨r, hr⟩ := h.dates hspan _ (.inl ht)
      exact hformat r hr
    | endDate hspan ht hformat =>
      obtain ⟨r, hr⟩ := h.dates hspan _ (.inr ht)
      exact hformat r hr
    | limit hlimit => exact absurd h.limit (UInt32.not_le.mpr hlimit)
  · intro h
    refine ⟨keeps_window_iff.mp (h .window), ?_, ?_, ?_, ?_⟩
    · intro field t ht
      have hcomparator : '<' ∈ t.toList ∨ '>' ∈ t.toList := by
        by_contra hnone
        obtain ⟨hless, hgreater⟩ := not_or.mp hnone
        exact h (.tone field) _ (.noComparator ht hless hgreater)
      exact ⟨hcomparator, fun hequals => h (.tone field) _ (.equals ht hcomparator hequals)⟩
    · intro t ht
      cases hs : Timespan.parse t with
      | error e => exact absurd (.timespan ht hs) (h .timespan e)
      | ok s => exact ⟨s, rfl⟩
    · rintro hspan t (ht | ht)
      · by_contra hnone
        exact h .startDate _ (.startDate ht (not_exists.mp hnone))
      · by_contra hnone
        exact h .endDate _ (.endDate hspan ht (not_exists.mp hnone))
    · by_contra hlimit
      exact h .limit _ (.limit (UInt32.not_le.mp hlimit))

theorem FirstBroken.not_keepsRules {rule : Rule} {e : FilterError} (h : f.FirstBroken rule e) :
    ¬ f.KeepsRules :=
  fun hrules => keepsRules_iff.mp hrules rule e h.1

end FilterSet

end NewsSearch
