import NewsSearch.Client.Response
import NewsSearch.Client.Config
import NewsSearch.Client.MediaType
import NewsSearch.Client.Url

/-!
# Over HTTP

A client sends requests to its base URL under its user agent. What the server does is given as a
delivery, so a client is a transport for any server.
-/

namespace NewsSearch

namespace Http

/-- What a server does with a request. -/
inductive Delivery
  /-- It closes the connection -/
  | dropped
  /-- It answers. The body may end before its announced length. -/
  | answered (status : Nat) (contentType : Option String) (body : String) (complete : Bool)
deriving DecidableEq, Repr

structure Client where
  baseUrl : String
  userAgent : String
deriving DecidableEq, Repr

/-- Whether a text may be the value of a header: no control characters but the tab. -/
def isHeaderValue (text : String) : Bool :=
  text.toList.all fun c => (0x20 ≤ c.toNat && c.toNat != 0x7F) || c == '\t'

/-- A client with these settings, if its user agent can be sent. -/
def Client.ofConfig (config : Config) : Except TransportError Client :=
  if isHeaderValue config.userAgent then .ok ⟨config.baseUrl, config.userAgent⟩
  else .error (.client none)

/-- Whether a status ends an exchange. Most of those below 200 announce one that never comes, and a
status has three digits. -/
def isFinal (status : Nat) : Bool := status == 101 || (200 ≤ status && status < 1000)

def isHeaderBlank (c : Char) : Bool := c == ' ' || c == '\t'

/-- A header's value as text, without the blanks around it. It is none if it has other than visible
ASCII characters. -/
def visibleText (value : String) : Option String :=
  let cs := ((value.toList.dropWhile isHeaderBlank).reverse.dropWhile isHeaderBlank).reverse
  if cs.all fun c => (0x20 ≤ c.toNat && c.toNat < 0x7F) || c == '\t' then some (String.ofList cs)
  else none

/-- The text of a body. A byte order mark shows UTF-8 whatever the header says. -/
def bodyText (contentType : Option String) (body : String) : String :=
  match body.toList with
  | '\uFEFF' :: cs => String.ofList cs
  | _ => (MediaType.charset contentType).reread body

/-- The status that has no body. -/
def noContent : Nat := 204

/-- The response in a delivery. A bad status counts before a body that is cut short. -/
def receive (url : String) : Delivery → Except TransportError Response
  | .dropped => .error (.http none)
  | .answered status contentType body complete =>
    if ¬ isFinal status ∨ ¬ contentType.all isHeaderValue then .error (.http none)
    else if status < 200 ∨ 300 ≤ status then .error (.status status url)
    else
      let contentType := contentType.bind visibleText
      if status = noContent then .ok ⟨status, contentType, ""⟩
      else if ¬ complete then .error (.body none)
      else .ok ⟨status, contentType, bodyText contentType body⟩

/-- What a server sees of a request: its target and the user agent. -/
structure Sighting where
  target : String
  userAgent : String
deriving DecidableEq, Repr

/-- The server's view of a request. It sees none that is encrypted or has no address. -/
def Client.sighting? (client : Client) (request : Request) : Option Sighting :=
  match Url.parse? (request.url client.baseUrl) with
  | none => none
  | some url => if url.encrypted then none else some ⟨url.target, client.userAgent⟩

/-- The server's view of requests. -/
def Client.sightings (client : Client) (sent : List Request) : List Sighting :=
  sent.filterMap client.sighting?

/-- A client and a server as a transport. The server's delivery may depend on all it has seen. -/
def Client.transport (client : Client) (server : List Sighting → Delivery) : Transport :=
  fun sent => match sent.getLast? with
  | none => .error (.http none)
  | some request =>
    match client.sighting? request with
    | none => .error (.http none)
    | some _ => receive (request.url client.baseUrl) (server (client.sightings sent))

end Http

end NewsSearch
