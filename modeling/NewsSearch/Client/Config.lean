import NewsSearch.Text.Blank
import NewsSearch.Text.Digits

/-!
# Configuration

Settings for talking to the API, from environment variables. A variable that is missing or blank
leaves the default.
-/

namespace NewsSearch

structure Config where
  baseUrl : String
  timeoutSeconds : Nat
  userAgent : String
deriving DecidableEq, Repr

/-- Which variable is wrong, and its value. -/
inductive ConfigError
  | baseUrl (value : String)
  | timeout (value : String)
deriving DecidableEq, Repr

namespace Config

def baseUrlVariable : String := "GDELT_DOC_BASE_URL"
def timeoutVariable : String := "GDELT_DOC_TIMEOUT_SECS"
def userAgentVariable : String := "GDELT_DOC_USER_AGENT"

/-- The name and version that the program gives itself. -/
def programName : String := "gdelt-doc"
def programVersion : String := "0.1.0"

def default : Config :=
  ⟨"https://api.gdeltproject.org/api/v2/doc/doc", 30, programName ++ "/" ++ programVersion⟩

/-- The value of a variable that is neither missing nor blank. -/
def given (lookup : String → Option String) (name : String) : Option String :=
  (lookup name).filter (! Text.allBlank ·)

/-- Whether a URL is one of the web. -/
def isWebUrl (url : String) : Bool :=
  "http://".toList.isPrefixOf url.toList || "https://".toList.isPrefixOf url.toList

/-- A whole number of 64 bits, perhaps with a plus sign. -/
def wholeNumber? (text : String) : Option Nat :=
  let digits := match text.toList with
    | '+' :: cs => cs
    | cs => cs
  if Text.isDigits digits ∧ Text.digitsValue digits < UInt64.size then some (Text.digitsValue digits)
  else none

def readBaseUrl (text : String) : Except ConfigError String :=
  let url := Text.trim text
  if isWebUrl url then .ok url else .error (.baseUrl url)

def readTimeout (text : String) : Except ConfigError Nat :=
  match wholeNumber? (Text.trim text) with
  | some (n + 1) => .ok (n + 1)
  | _ => .error (.timeout text)

/-- Reads the variables, the base URL before the timeout. -/
def ofLookup (lookup : String → Option String) : Except ConfigError Config := do
  let baseUrl ← match given lookup baseUrlVariable with
    | none => pure default.baseUrl
    | some text => readBaseUrl text
  let timeoutSeconds ← match given lookup timeoutVariable with
    | none => pure default.timeoutSeconds
    | some text => readTimeout text
  let userAgent := (given lookup userAgentVariable).getD default.userAgent
  return { baseUrl, timeoutSeconds, userAgent }

end Config

def ConfigError.message : ConfigError → String
  | .baseUrl value => s!"{Config.baseUrlVariable} must be an http(s) URL, got '{value}'"
  | .timeout value => s!"{Config.timeoutVariable} must be a positive integer, got '{value}'"

end NewsSearch
