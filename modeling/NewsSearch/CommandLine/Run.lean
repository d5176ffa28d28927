import NewsSearch.CommandLine.Arguments
import NewsSearch.Client.Search
import NewsSearch.Client.Http

/-!
# Running a command

A run depends on its arguments, the environment, the files and the server, and comes to an exit
status, what is printed, the error it ends with and what the server has seen. Nothing is printed
before the command has succeeded. What is logged on the way is not described here.
-/

namespace NewsSearch

namespace CommandLine

open Json

/-- What a run finds around it. -/
structure Surroundings where
  environment : String → Option String
  file : String → Option String
  server : List Http.Sighting → Http.Delivery

inductive RunError
  | fileNotRead (path : String)
  | fileInvalid (path : String) (problem : Decode.Problem)
  | configuration (error : ConfigError)
  | client (error : TransportError)
  | search (error : SearchError)
deriving DecidableEq, Repr

def RunError.message : RunError → String
  | .fileNotRead path => s!"Failed to read filters file: {path}"
  | .fileInvalid path _ => s!"Invalid filters file: {path}"
  | .configuration _ => "Invalid GDELT client configuration"
  | .client _ => "Failed to create GDELT client"
  | .search e => e.message

/-- The filters of a filters file, or none at all. -/
def baseFilters (file : String → Option String) (settings : List Setting) :
    Except RunError FilterSet :=
  match filtersFile? settings with
  | none => .ok .empty
  | some path =>
    match file path with
    | none => .error (.fileNotRead path)
    | some text => (FilterSet.decode text).mapError (.fileInvalid path)

/-- The filters of the file, under the other settings. -/
def filterSet (file : String → Option String) (settings : List Setting) :
    Except RunError FilterSet :=
  (baseFilters file settings).map (applyAll settings)

/-! ## Printing -/

/-- Two lines for an article, the second only if it has a URL. -/
def articleText (a : Article) : String :=
  a.seenDate.getD "-" ++ "  " ++ a.domain.getD "-" ++ "  " ++ a.title.getD "(untitled)" ++ "\n"
    ++ (match a.url with
      | some url => "    " ++ url ++ "\n"
      | none => "")

def printArticles (format : OutputFormat) (articles : List Article) : String :=
  match format with
  | .json => (Article.listValue articles).pretty ++ "\n"
  | .text => String.join (articles.map articleText) ++ s!"{articles.length} articles\n"

def printFindings (format : OutputFormat) : Findings → String
  | .articles articles => printArticles format articles
  | .rows rows => (Timeline.Row.listValue rows).pretty ++ "\n"

/-! ## Commands -/

/-- What a command comes to: what the server has seen, and what is printed or the error. -/
structure Result where
  sightings : List Http.Sighting
  output : Except RunError String

/-- The client that the environment asks for. -/
def openClient (environment : String → Option String) : Except RunError Http.Client := do
  let config ← (Config.ofLookup environment).mapError .configuration
  (Http.Client.ofConfig config).mapError .client

/-- The search of a command with these filters. A query is not searched for. -/
def Arguments.search? (a : Arguments) (filters : FilterSet) : Option Search :=
  match a.command with
  | .articles => some (.articles filters)
  | .timeline => (mode? a.settings).map (.timeline · filters)
  | .lastHour => some (.lastHour (some filters))
  | .query => none

/-- Runs a search and prints what it finds. -/
def runSearch (s : Search) (format : OutputFormat) (around : Surroundings) : Result :=
  match openClient around.environment with
  | .error e => ⟨[], .error e⟩
  | .ok client =>
    let outcome := s.run (client.transport around.server) []
    ⟨client.sightings outcome.sent,
      (outcome.result.mapError .search).map (printFindings format)⟩

/-- Runs a command. -/
def Arguments.run (a : Arguments) (around : Surroundings) : Result :=
  match filterSet around.file a.settings with
  | .error e => ⟨[], .error e⟩
  | .ok filters =>
    match a.search? filters with
    | some s => runSearch s (formatOf a.settings) around
    | none => ⟨[], (filters.query.map (·.text ++ "\n")).mapError fun e => .search (.filters e)⟩

/-! ## The program -/

/-- What the program leaves behind. The log, the causes below an error's message and the texts that
explain the usage are left out. -/
structure Outcome where
  exit : Nat
  stdout : String
  /-- The error that a command ends with, which standard error then reports. -/
  error : Option RunError
  sightings : List Http.Sighting
deriving DecidableEq, Repr

/-- The head of the report on standard error. -/
def Outcome.stderr (o : Outcome) : String :=
  match o.error with
  | none => ""
  | some e => "Error: " ++ e.message ++ "\n"

/-- The outcome when no command is run. Neither the help nor the complaint about an argument is
written out. -/
def UsageError.outcome : UsageError → Outcome
  | .version => ⟨0, Config.programName ++ " " ++ Config.programVersion ++ "\n", none, []⟩
  | .help => ⟨0, "", none, []⟩
  | _ => ⟨2, "", none, []⟩

def Result.outcome (r : Result) : Outcome :=
  match r.output with
  | .ok text => ⟨0, text, none, r.sightings⟩
  | .error e => ⟨1, "", some e, r.sightings⟩

/-- Runs the program. -/
def run (arguments : List String) (around : Surroundings) : Outcome :=
  match Arguments.parse arguments with
  | .error e => e.outcome
  | .ok a => (a.run around).outcome

end CommandLine

end NewsSearch
