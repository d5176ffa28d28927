import NewsSearch.Decode.Decoder
import NewsSearch.Filter.FilterError

/-!
# Modes

What a request asks for: the list of articles, or one of the timelines.
-/

namespace NewsSearch

inductive TimelineMode
  /-- The share of all articles -/
  | volume
  /-- The number of articles, and of all articles -/
  | rawVolume
  /-- The average tone -/
  | tone
  /-- The share by language -/
  | language
  /-- The share by country -/
  | sourceCountry
deriving DecidableEq, Repr

namespace TimelineMode

def all : List TimelineMode := [.volume, .rawVolume, .tone, .language, .sourceCountry]

def name : TimelineMode → String
  | .volume => "timelinevol"
  | .rawVolume => "timelinevolraw"
  | .tone => "timelinetone"
  | .language => "timelinelang"
  | .sourceCountry => "timelinesourcecountry"

def ofName? (name : String) : Option TimelineMode := all.find? (·.name == name)

def ofName (name : String) : Except FilterError TimelineMode :=
  match ofName? name with
  | some mode => .ok mode
  | none => .error (.unsupportedMode name)

/-! ## As JSON -/

open Json Decode

def toValue (m : TimelineMode) : Value := .string m.name

/-- Reads the name of a mode. -/
def nameOfText (room : Nat) (cs : List Char) :
    Except Problem (TimelineMode × List Char) :=
  match Reader.skipSpaces cs with
  | [] => .error (.fault .endInValue)
  | '"' :: rest => do
    let (s, rest) ← readString .opened rest
    match ofName? s with
    | some mode => .ok (mode, rest)
    | none => .error (.unknownVariant s (all.map name))
  | cs => .error (mismatch room "variant identifier" cs)

/-- Reads null where there is nothing to say. -/
def readUnit (room : Nat) (cs : List Char) : Except Problem (List Char) :=
  match Reader.skipSpaces cs with
  | [] => .error (.fault .endInValue)
  | 'n' :: rest => do return (← readValue room ('n' :: rest)).2
  | cs => .error (mismatch room "unit" cs)

/-- A mode is its name, or an object with its name as the only key and null under it. -/
def ofText (room : Nat) (cs : List Char) : Except Problem (TimelineMode × List Char) :=
  match Reader.skipSpaces cs with
  | [] => .error (.fault .endInValue)
  | '"' :: rest => nameOfText room ('"' :: rest)
  | '{' :: rest => do
    let room ← openBracket room
    let (mode, rest) ← nameOfText room rest
    let rest ← readUnit room (← readColon rest)
    match Reader.skipSpaces rest with
    | [] => .error (.fault .endInObject)
    | '}' :: rest => .ok (mode, rest)
    | _ => .error (.fault .expectedValue)
  | _ => .error (.fault .expectedValue)

def decode (s : String) : Except Problem TimelineMode := wholeText ofText s

end TimelineMode

inductive Mode
  | articleList
  | timeline (mode : TimelineMode)
deriving DecidableEq, Repr

def Mode.name : Mode → String
  | .articleList => "artlist"
  | .timeline mode => mode.name

/-- The mode of that name. -/
def Mode.ofName (name : String) : Except FilterError Mode :=
  if name = Mode.articleList.name then .ok .articleList
  else (TimelineMode.ofName name).map .timeline

end NewsSearch
