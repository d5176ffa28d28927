import NewsSearch.Query.Fragment
import NewsSearch.Filter.Validated

/-!
# Compiling filters

Checked filters become a query: the clauses in a fixed order, then the time window and the number of
records as parameters.
-/

namespace NewsSearch

namespace Query

/-- Joins texts with `OR`, in parentheses. -/
def anyOf (terms : List String) : String := "(" ++ " OR ".intercalate terms ++ ") "

/-- One keyword is always quoted. Of several, those with a space are. -/
def keywordClause : List String → Option String
  | [] => none
  | [keyword] => some ("\"" ++ keyword ++ "\" ")
  | keywords => some (anyOf (keywords.map fun k =>
      if k.toList.contains ' ' then "\"" ++ k ++ "\"" else k))

/-- Any of the values in a field of the API. -/
def fieldClause (field : String) : List String → Option String
  | [] => none
  | [value] => some (field ++ ":" ++ value ++ " ")
  | values => some (anyOf (values.map fun v => field ++ ":" ++ v))

/-- The clauses that the filters ask for, in order. The near and repeat filters are clauses already
and keep their own spacing. -/
def filterClauses (f : ValidatedFilters) : List String :=
  [keywordClause f.keywords,
   fieldClause "domain" f.domains,
   fieldClause "domainis" f.domainsExact,
   fieldClause "sourcecountry" f.countries,
   fieldClause "sourcelang" f.languages,
   fieldClause "theme" f.themes,
   f.tone.map fun t => "tone" ++ t ++ " ",
   f.toneAbsolute.map fun t => "toneabs" ++ t ++ " ",
   f.near,
   f.repeated].reduceOption

/-- The parameters that a time window asks for. -/
def windowParams : TimeWindow → List (String × String)
  | .range first last => [("startdatetime", first), ("enddatetime", last)]
  | .span timespan => [("timespan", timespan.text)]

/-- The parameters that the filters ask for, in order. -/
def filterParams (f : ValidatedFilters) : List (String × String) :=
  windowParams f.window ++ [("maxrecords", String.ofList (Text.decimal f.maxRecords.toNat))]

def compile (f : ValidatedFilters) : Query :=
  ⟨(filterClauses f).map .clause ++ (filterParams f).map fun p => .param p.1 p.2⟩

end Query

/-- Checks filters and compiles them. -/
def FilterSet.query (f : FilterSet) : Except FilterError Query := f.validate.map Query.compile

end NewsSearch
