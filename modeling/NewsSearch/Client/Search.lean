import NewsSearch.Client.Response
import NewsSearch.Query.Compile
import NewsSearch.Json.Repair
import NewsSearch.Article
import NewsSearch.Timeline.Row

/-!
# Searching

A search checks and compiles the filters, sends one request and decodes the answer. Filters that
break a rule are never sent.
-/

namespace NewsSearch

open Json

/-- Why a search fails, by the stage that found it. -/
inductive SearchError
  | filters (error : FilterError)
  | transport (error : TransportError)
  /-- The answer is a page with an error message -/
  | page (text : String)
  | unreadable (error : RepairError)
  | shape (problem : Decode.Problem)
deriving DecidableEq, Repr

namespace SearchError

def message : SearchError → String
  | .filters e => e.message
  | .transport e => e.message
  | .page text => "The query was not valid. The API error message was: " ++ text
  | .unreadable e => e.message
  | .shape p => "unexpected GDELT payload shape: " ++ p.message

/-- Whether the caller's filters are to blame. -/
def isClientError : SearchError → Bool
  | .filters _ => true
  | _ => false

end SearchError

/-- The timespan of a search for the last hour. -/
def lastHourTimespan : String := "1h"

/-- A search. -/
inductive Search
  | articles (filters : FilterSet)
  | timeline (mode : TimelineMode) (filters : FilterSet)
  /-- Articles of the last hour, whatever timespan the filters have -/
  | lastHour (filters : Option FilterSet)
deriving DecidableEq, Repr

/-- What a search finds. -/
inductive Findings
  | articles (articles : List Article)
  | rows (rows : List Timeline.Row)

namespace Search

/-- The filters that are checked. -/
def filters : Search → FilterSet
  | .articles f => f
  | .timeline _ f => f
  | .lastHour f => { f.getD .empty with timespan := some lastHourTimespan }

def mode : Search → Mode
  | .articles _ => .articleList
  | .timeline m _ => .timeline m
  | .lastHour _ => .articleList

/-- The request to send, if the filters keep the rules. -/
def request (s : Search) : Except FilterError Request :=
  s.filters.query.map fun query => ⟨query, s.mode⟩

/-- The members of an answer. -/
def payload (r : Response) : Except SearchError Members :=
  if r.isHtml then .error (.page (Text.trim r.body))
  else (Repair.parse Repair.defaultBudget r.body).mapError .unreadable

/-- What an answer says for a mode. -/
def findings (m : Mode) (payload : Members) : Except SearchError Findings :=
  match m with
  | .articleList => .ok (.articles (Article.ofPayload payload))
  | .timeline mode =>
    match Timeline.Series.ofPayload payload with
    | .ok series => .ok (.rows (Timeline.Row.ofSeries series mode))
    | .error p => .error (.shape p)

/-- What a mode's search finds in the transport's answer. -/
def interpret (m : Mode) (answer : Except TransportError Response) :
    Except SearchError Findings := do
  findings m (← payload (← answer.mapError .transport))

/-- What a search comes to: all requests that have been sent by then, and its result. -/
structure Outcome where
  sent : List Request
  result : Except SearchError Findings

/-- Runs one search after the requests that have been sent already. -/
def run (transport : Transport) (sent : List Request) (s : Search) : Outcome :=
  match s.request with
  | .error e => ⟨sent, .error (.filters e)⟩
  | .ok request =>
    let sent := sent ++ [request]
    ⟨sent, interpret s.mode (transport sent)⟩

/-- Runs searches one after another. -/
def runAll (transport : Transport) : (sent : List Request) → List Search → List Outcome
  | _, [] => []
  | sent, s :: rest =>
    let outcome := s.run transport sent
    outcome :: runAll transport outcome.sent rest

end Search

end NewsSearch
