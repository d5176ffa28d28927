import NewsSearch.Filter.FilterSet
import NewsSearch.Mode

/-!
# Command line settings

The options that take a value, the values that they take, and what a filter set becomes under them.
-/

namespace NewsSearch

namespace CommandLine

/-- The scalar filters. -/
inductive ScalarFilter
  | startDate
  | endDate
  | timespan
  | tone
  | toneAbsolute
  | near
  | repeated
deriving DecidableEq, Repr

/-- The list filters. -/
inductive ListFilter
  | keyword
  | domain
  | domainExact
  | country
  | language
  | theme
deriving DecidableEq, Repr

/-- How articles are printed. -/
inductive OutputFormat
  | json
  | text
deriving DecidableEq, Repr

/-- The options that take a value. -/
inductive ValueOption
  | filtersFile
  | scalar (filter : ScalarFilter)
  | list (filter : ListFilter)
  | maxRecords
  | mode
  | format
deriving DecidableEq, Repr

/-- An option with its value. -/
inductive Setting
  | filtersFile (path : String)
  | scalar (filter : ScalarFilter) (value : String)
  | list (filter : ListFilter) (value : String)
  | maxRecords (count : UInt32)
  | mode (mode : TimelineMode)
  | format (format : OutputFormat)
deriving DecidableEq, Repr

def ScalarFilter.name : ScalarFilter → String
  | .startDate => "start-date"
  | .endDate => "end-date"
  | .timespan => "timespan"
  | .tone => "tone"
  | .toneAbsolute => "tone-absolute"
  | .near => "near"
  | .repeated => "repeat"

def ListFilter.name : ListFilter → String
  | .keyword => "keyword"
  | .domain => "domain"
  | .domainExact => "domain-exact"
  | .country => "country"
  | .language => "language"
  | .theme => "theme"

def OutputFormat.name : OutputFormat → String
  | .json => "json"
  | .text => "text"

def ValueOption.name : ValueOption → String
  | .filtersFile => "filters"
  | .scalar f => f.name
  | .list f => f.name
  | .maxRecords => "max-records"
  | .mode => "mode"
  | .format => "format"

/-- Tone filters often start with a hyphen, so these options take any text as their value. -/
def ValueOption.takesHyphen : ValueOption → Bool
  | .scalar .tone | .scalar .toneAbsolute => true
  | _ => false

/-- Only the list options may be given more than once. -/
def ValueOption.isRepeatable : ValueOption → Bool
  | .list _ => true
  | _ => false

def Setting.option : Setting → ValueOption
  | .filtersFile _ => .filtersFile
  | .scalar f _ => .scalar f
  | .list f _ => .list f
  | .maxRecords _ => .maxRecords
  | .mode _ => .mode
  | .format _ => .format

/-! ## Filters under settings -/

def ScalarFilter.set (filter : ScalarFilter) (value : String) (f : FilterSet) : FilterSet :=
  match filter with
  | .startDate => { f with startDate := some value }
  | .endDate => { f with endDate := some value }
  | .timespan => { f with timespan := some value }
  | .tone => { f with tone := some value }
  | .toneAbsolute => { f with toneAbsolute := some value }
  | .near => { f with near := some value }
  | .repeated => { f with repeated := some value }

def ListFilter.add (filter : ListFilter) (value : String) (f : FilterSet) : FilterSet :=
  match filter with
  | .keyword => { f with keywords := f.keywords ++ [value] }
  | .domain => { f with domains := f.domains ++ [value] }
  | .domainExact => { f with domainsExact := f.domainsExact ++ [value] }
  | .country => { f with countries := f.countries ++ [value] }
  | .language => { f with languages := f.languages ++ [value] }
  | .theme => { f with themes := f.themes ++ [value] }

/-- A scalar and the limit replace what is there, a list value goes to the end of the list. -/
def Setting.apply (f : FilterSet) : Setting → FilterSet
  | .scalar filter value => filter.set value f
  | .list filter value => filter.add value f
  | .maxRecords count => { f with maxRecords := count }
  | .filtersFile _ | .mode _ | .format _ => f

def applyAll (settings : List Setting) (f : FilterSet) : FilterSet := settings.foldl Setting.apply f

/-- The filters file that settings name. -/
def filtersFile? (settings : List Setting) : Option String :=
  settings.findSome? fun
    | .filtersFile path => some path
    | _ => none

def mode? (settings : List Setting) : Option TimelineMode :=
  settings.findSome? fun
    | .mode m => some m
    | _ => none

/-- The format that settings name, or JSON. -/
def formatOf (settings : List Setting) : OutputFormat :=
  (settings.findSome? fun
    | .format f => some f
    | _ => none).getD .json

end CommandLine

end NewsSearch
