import NewsSearch.Client.Request

/-!
# Responses

What comes back for a request, before any of it is decoded, and what can go wrong on the way.
-/

namespace NewsSearch

structure Response where
  status : Nat
  contentType : Option String
  body : String
deriving DecidableEq, Repr

namespace Response

/-- A good answer with this JSON. -/
def json (body : String) : Response := ⟨200, some "application/json", body⟩

/-- Whether a list holds another as a run of neighbours. -/
def hasRun (run : List Char) : List Char → Bool
  | [] => run.isEmpty
  | c :: cs => run.isPrefixOf (c :: cs) || hasRun run cs

/-- Whether the answer is a page, which the API sends instead of JSON for a bad query. -/
def isHtml (r : Response) : Bool :=
  r.contentType.any fun t => hasRun "text/html".toList t.toList

end Response

/-- Why there is no response. A reason may be missing where only the HTTP library knows it. -/
inductive TransportError
  | client (reason : Option String)
  | http (reason : Option String)
  | status (status : Nat) (url : String)
  | body (reason : Option String)
deriving DecidableEq, Repr

def TransportError.message : TransportError → String
  | .client reason => "failed to build HTTP client" ++ because reason
  | .http reason => "GDELT request failed" ++ because reason
  | .status code url => s!"GDELT returned unexpected status {code} for {url}"
  | .body reason => "failed to read GDELT response body" ++ because reason
where
  because : Option String → String
    | none => ""
    | some reason => ": " ++ reason

/-- Answers requests. The answer may depend on all requests so far, the latest last. -/
abbrev Transport := List Request → Except TransportError Response

end NewsSearch
