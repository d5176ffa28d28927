import NewsSearch.Decode.Decoder

/-!
# Filter sets

What a search asks for. A scalar filter may be missing. A list filter asks for any of its values. In
JSON the lists and the limit also go by older names, in the singular.
-/

namespace NewsSearch

/-- The most records that the API returns. -/
def maxRecordsLimit : UInt32 := 250

structure FilterSet where
  startDate : Option String
  endDate : Option String
  timespan : Option String
  keywords : List String
  domains : List String
  domainsExact : List String
  countries : List String
  languages : List String
  themes : List String
  tone : Option String
  toneAbsolute : Option String
  near : Option String
  repeated : Option String
  maxRecords : UInt32
deriving DecidableEq, Repr

namespace FilterSet

/-- No filter, and as many records as the API returns. -/
def empty : FilterSet :=
  ⟨none, none, none, [], [], [], [], [], [], none, none, none, none, maxRecordsLimit⟩

/-- Filters for a span of time that ends now. -/
def ofTimespan (timespan : String) : FilterSet := { empty with timespan := some timespan }

/-- Filters for a range of dates. -/
def ofDateRange (first last : String) : FilterSet :=
  { empty with startDate := some first, endDate := some last }

/-! ## As JSON -/

open Json Decode

def textValue : Option String → Value := Value.ofOption .string

def listValue (vs : List String) : Value := .array (vs.map .string)

def toValue (f : FilterSet) : Value :=
  .object
    [("start_date", textValue f.startDate), ("end_date", textValue f.endDate),
     ("timespan", textValue f.timespan), ("keywords", listValue f.keywords),
     ("domains", listValue f.domains), ("domains_exact", listValue f.domainsExact),
     ("countries", listValue f.countries), ("languages", listValue f.languages),
     ("themes", listValue f.themes), ("tone", textValue f.tone),
     ("tone_absolute", textValue f.toneAbsolute), ("near", textValue f.near),
     ("repeat", textValue f.repeated), ("max_records", .number (.integer f.maxRecords.toNat))]

def text : Decoder (Option String) := .nullable .string

def texts : Decoder (List String) := .list .string

def fields : List (Decode.Field FilterSet) :=
  [.of "start_date" [] text fun v f => { f with startDate := v },
   .of "end_date" [] text fun v f => { f with endDate := v },
   .of "timespan" [] text fun v f => { f with timespan := v },
   .of "keywords" ["keyword"] texts fun v f => { f with keywords := v },
   .of "domains" ["domain"] texts fun v f => { f with domains := v },
   .of "domains_exact" ["domain_exact"] texts fun v f => { f with domainsExact := v },
   .of "countries" ["country"] texts fun v f => { f with countries := v },
   .of "languages" ["language"] texts fun v f => { f with languages := v },
   .of "themes" ["theme"] texts fun v f => { f with themes := v },
   .of "tone" [] text fun v f => { f with tone := v },
   .of "tone_absolute" [] text fun v f => { f with toneAbsolute := v },
   .of "near" [] text fun v f => { f with near := v },
   .of "repeat" [] text fun v f => { f with repeated := v },
   .of "max_records" ["num_records"] .uint32 fun v f => { f with maxRecords := v }]

def record : Record FilterSet := ⟨"struct FilterSet", empty, fields⟩

def decoder : Decoder FilterSet := record.decoder

/-- Reads a filter set from JSON text. -/
def decode (s : String) : Except Problem FilterSet := decoder.decode s

end FilterSet

end NewsSearch
