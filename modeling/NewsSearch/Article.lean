import NewsSearch.Decode.Decoder

/-!
# Articles

An entry of an article list. Any part of it may be missing.
-/

namespace NewsSearch

structure Article where
  url : Option String
  urlMobile : Option String
  title : Option String
  seenDate : Option String
  socialImage : Option String
  domain : Option String
  language : Option String
  sourceCountry : Option String
deriving DecidableEq, Repr

namespace Article

open Json Decode

def empty : Article := ⟨none, none, none, none, none, none, none, none⟩

def toValue (a : Article) : Value :=
  let text : Option String → Value := Value.ofOption .string
  .object
    [("url", text a.url), ("url_mobile", text a.urlMobile), ("title", text a.title),
     ("seendate", text a.seenDate), ("socialimage", text a.socialImage),
     ("domain", text a.domain), ("language", text a.language),
     ("sourcecountry", text a.sourceCountry)]

/-- Articles as a JSON list. -/
def listValue (articles : List Article) : Value := .array (articles.map toValue)

def text : Decoder (Option String) := .nullable .string

def fields : List (Decode.Field Article) :=
  [.of "url" [] text fun v a => { a with url := v },
   .of "url_mobile" ["urlMobile"] text fun v a => { a with urlMobile := v },
   .of "title" [] text fun v a => { a with title := v },
   .of "seendate" [] text fun v a => { a with seenDate := v },
   .of "socialimage" [] text fun v a => { a with socialImage := v },
   .of "domain" [] text fun v a => { a with domain := v },
   .of "language" [] text fun v a => { a with language := v },
   .of "sourcecountry" [] text fun v a => { a with sourceCountry := v }]

def record : Record Article := ⟨"struct Article", empty, fields⟩

def decoder : Decoder Article := record.decoder

def decode (s : String) : Except Problem Article := decoder.decode s

/-- The articles of an answer. Entries that are no articles are left out, and so is a list that is
none. -/
def ofPayload (payload : Members) : List Article :=
  match get? "articles" payload with
  | some (.array items) => items.filterMap fun v => (decoder.ofValue v).toOption
  | _ => []

end Article

end NewsSearch
