import NewsSearch.Query.Fragment
import NewsSearch.Mode
import NewsSearch.Text.Percent

/-!
# Requests

A request is a query and a mode. Its URL has the query text, the query's parameters, the mode and
the format, in this order, every value percent-encoded.
-/

namespace NewsSearch

structure Request where
  query : Query
  mode : Mode
deriving DecidableEq, Repr

namespace Request

/-- The parameters of the URL in order, not encoded. -/
def pairs (r : Request) : List (String × String) :=
  ("query", r.query.clauses) :: r.query.params ++ [("mode", r.mode.name), ("format", "json")]

def pairText (p : String × String) : String := p.1 ++ "=" ++ Text.Percent.encode p.2

/-- The part of the URL after the question mark. -/
def queryString (r : Request) : String := "&".intercalate (r.pairs.map pairText)

def url (r : Request) (base : String) : String := base ++ "?" ++ r.queryString

end Request

end NewsSearch
