import NewsSearch.Filter.FilterSet
import NewsSearch.Filter.Timespan
import NewsSearch.Calendar.Timestamp

/-!
# Checking filter sets

The API's rules, checked in a fixed order; the first that is broken is the error.

1. There is one time window: a timespan, or a start and an end date. A start date needs an end date,
   an end date alone is no window.
2. The tone filters have a comparator and no equals sign.
3. The timespan or the dates can be read.
4. There are at most `maxRecordsLimit` records.

A scalar filter that is the empty text counts as missing.
-/

namespace NewsSearch

/-- The time that a search covers. -/
inductive TimeWindow
  /-- From one timestamp to another -/
  | range (first last : String)
  | span (timespan : Timespan)
deriving DecidableEq, Repr

/-- Filters that keep the rules. -/
structure ValidatedFilters where
  window : TimeWindow
  keywords : List String
  domains : List String
  domainsExact : List String
  countries : List String
  languages : List String
  themes : List String
  tone : Option String
  toneAbsolute : Option String
  near : Option String
  repeated : Option String
  maxRecords : UInt32
deriving DecidableEq, Repr

namespace FilterSet

/-- The filter, if it is there and not empty. -/
def supplied (filter : Option String) : Option String := filter.filter (· != "")

/-- A tone filter such as `>5` or `<-2.5`. -/
def checkTone (field : ToneField) (tone : String) : Except FilterError String :=
  if ¬ tone.toList.contains '<' ∧ ¬ tone.toList.contains '>' then
    .error (.toneWithoutComparator field tone)
  else if tone.toList.contains '=' then .error (.toneWithEquals field tone)
  else .ok tone

/-- A tone filter, if it is supplied. -/
def checkSuppliedTone (field : ToneField) (tone : Option String) :
    Except FilterError (Option String) :=
  match supplied tone with
  | none => .ok none
  | some t => (checkTone field t).map some

/-- The filters that make up the time window, before they are read. -/
inductive WindowText
  | range (first last : String)
  | span (timespan : String)
deriving DecidableEq, Repr

/-- Picks the time window. With a timespan an end date alone does not count. -/
def windowText (f : FilterSet) : Except FilterError WindowText :=
  match supplied f.startDate, supplied f.endDate, supplied f.timespan with
  | none, none, none => .error .noTimeWindow
  | some _, some _, some _ => .error .ambiguousTimeWindow
  | some _, none, _ => .error .incompleteDateRange
  | none, some _, none => .error .incompleteDateRange
  | some first, some last, none => .ok (.range first last)
  | none, _, some timespan => .ok (.span timespan)

/-- Reads a time window. -/
def WindowText.read : WindowText → Except FilterError TimeWindow
  | .range first last => do return .range (← formatDate first) (← formatDate last)
  | .span timespan => do return .span (← Timespan.parse timespan)

/-- Checks the rules. -/
def validate (f : FilterSet) : Except FilterError ValidatedFilters := do
  let windowText ← f.windowText
  let tone ← checkSuppliedTone .signed f.tone
  let toneAbsolute ← checkSuppliedTone .absolute f.toneAbsolute
  let window ← windowText.read
  if maxRecordsLimit < f.maxRecords then .error (.tooManyRecords f.maxRecords)
  return { window, tone, toneAbsolute
           keywords := f.keywords, domains := f.domains, domainsExact := f.domainsExact
           countries := f.countries, languages := f.languages, themes := f.themes
           near := supplied f.near, repeated := supplied f.repeated
           maxRecords := f.maxRecords }

end FilterSet

end NewsSearch
