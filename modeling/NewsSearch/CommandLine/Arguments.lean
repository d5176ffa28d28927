import NewsSearch.CommandLine.Setting

/-!
# Command line arguments

The arguments name one of four commands and its settings. An option's value is the next argument or
follows an equals sign. A value is looked at when the next option comes, or at the end, so an
argument that nobody knows is found first.
-/

namespace NewsSearch

namespace CommandLine

/-- Why arguments are refused. The program's help and its version also end the reading. -/
inductive UsageError
  | unknownArgument
  | unknownCommand
  | missingCommand
  /-- No argument at all -/
  | nothingGiven
  /-- A value is missing, empty, or not one of those listed -/
  | invalidValue
  /-- A value cannot be read -/
  | unreadableValue
  /-- An option that takes none has a value -/
  | unwantedValue
  | missingOption
  /-- An option is given twice -/
  | repeatedOption
  | help
  | version
deriving DecidableEq, Repr

inductive Command
  | articles
  | timeline
  | lastHour
  | query
deriving DecidableEq, Repr

def Command.all : List Command := [.articles, .timeline, .lastHour, .query]

def Command.name : Command → String
  | .articles => "articles"
  | .timeline => "timeline"
  | .lastHour => "last-hour"
  | .query => "query"

def Command.ofName? (name : String) : Option Command := Command.all.find? (·.name == name)

/-- The filter options, which every command takes. -/
def filterOptions : List ValueOption :=
  [.filtersFile, .scalar .startDate, .scalar .endDate, .scalar .timespan, .list .keyword,
   .list .domain, .list .domainExact, .list .country, .list .language, .list .theme,
   .scalar .tone, .scalar .toneAbsolute, .scalar .near, .scalar .repeated, .maxRecords]

def Command.options : Command → List ValueOption
  | .articles | .lastHour => .format :: filterOptions
  | .timeline => .mode :: filterOptions
  | .query => filterOptions

/-- The arguments of one run. -/
structure Arguments where
  command : Command
  /-- Whether the log is to say more -/
  verbose : Bool
  settings : List Setting
deriving DecidableEq, Repr

/-! ## Values -/

/-- A whole number of 32 bits, perhaps with a sign. -/
def readCount (text : String) : Option UInt32 :=
  let (negative, digits) := match text.toList with
    | '-' :: cs => (true, cs)
    | '+' :: cs => (false, cs)
    | cs => (false, cs)
  let n := Text.digitsValue digits
  if Text.isDigits digits ∧ n < UInt32.size ∧ (n = 0 ∨ ¬ negative) then some n.toUInt32 else none

/-- Reads the value of an option. -/
def ValueOption.read (option : ValueOption) (value : String) : Except UsageError Setting :=
  match option with
  | .filtersFile => if value = "" then .error .invalidValue else .ok (.filtersFile value)
  | .scalar f => .ok (.scalar f value)
  | .list f => .ok (.list f value)
  | .maxRecords =>
    match readCount value with
    | some count => .ok (.maxRecords count)
    | none => .error .unreadableValue
  | .mode =>
    match TimelineMode.ofName? value with
    | some m => .ok (.mode m)
    | none => .error .unreadableValue
  | .format =>
    if value = OutputFormat.json.name then .ok (.format .json)
    else if value = OutputFormat.text.name then .ok (.format .text)
    else .error .invalidValue

/-! ## Reading the arguments -/

/-- What an argument looks like. -/
inductive Shape
  /-- The two hyphens after which there are no more options -/
  | separator
  | long (name : String) (value : Option String)
  | short (letters : List Char)
  | plain

def Shape.of (argument : String) : Shape :=
  match argument.toList with
  | ['-', '-'] => .separator
  | '-' :: '-' :: cs =>
    let name := String.ofList (cs.takeWhile (· != '='))
    match cs.dropWhile (· != '=') with
    | [] => .long name none
    | _ :: value => .long name (some (String.ofList value))
  | '-' :: c :: cs => .short (c :: cs)
  | _ => .plain

/-- The reading of a command's arguments. -/
structure Progress where
  verbose : Bool
  settings : List Setting
  /-- An option whose value has not come or has not been looked at -/
  pending : Option (ValueOption × Option String)
  /-- Whether the separator has come -/
  separated : Bool

namespace Progress

def start : Progress := ⟨false, [], none, false⟩

/-- Adds an option with its value. -/
def accept (p : Progress) (option : ValueOption) (value : String) : Except UsageError Progress :=
  if ¬ option.isRepeatable ∧ p.settings.any (·.option == option) then .error .repeatedOption
  else (option.read value).map fun s => { p with settings := p.settings ++ [s] }

/-- Looks at the pending value. -/
def resolve (p : Progress) : Except UsageError Progress :=
  match p.pending with
  | none => .ok p
  | some (_, none) => .error .invalidValue
  | some (option, some value) => { p with pending := none }.accept option value

def setVerbose (p : Progress) : Except UsageError Progress := do
  let p ← p.resolve
  if p.verbose then .error .repeatedOption else .ok { p with verbose := true }

/-- An option by its long name. `ends` are the options that end the reading. -/
def long (options : List ValueOption) (ends : List (String × UsageError)) (p : Progress)
    (name : String) (value : Option String) : Except UsageError Progress :=
  match options.find? (·.name == name) with
  | some option => do
    let p ← p.resolve
    match value with
    | none => .ok { p with pending := some (option, none) }
    | some value => p.accept option value
  | none =>
    if name = "verbose" then
      if value.isSome then .error .unwantedValue else p.setVerbose
    else match ends.find? (·.1 == name) with
      | some (_, e) =>
        if value.isSome then .error .unwantedValue else p.resolve.bind fun _ => .error e
      | none => .error .unknownArgument

/-- Options by their letters. -/
def short (ends : List (Char × UsageError)) (p : Progress) : List Char → Except UsageError Progress
  | [] => .ok p
  | c :: cs =>
    if c = 'v' then p.setVerbose.bind (short ends · cs)
    else match ends.find? (·.1 == c) with
      | some (_, e) => p.resolve.bind fun _ => .error e
      | none => .error .unknownArgument

/-- The options that end the reading of a command's arguments. -/
def commandEnds : List (String × UsageError) × List (Char × UsageError) :=
  ([("help", .help)], [('h', .help)])

/-- Those before the command. -/
def programEnds : List (String × UsageError) × List (Char × UsageError) :=
  ([("help", .help), ("version", .version)], [('h', .help), ('V', .version)])

/-- Reads an argument that is no value. -/
def readShape (p : Progress) (options : List ValueOption) : Shape → Except UsageError Progress
  | .separator => .ok { p with separated := true }
  | .long name value => p.long options commandEnds.1 name value
  | .short letters => p.short commandEnds.2 letters
  | .plain => .error .unknownArgument

/-- Reads one more argument of a command. -/
def step (options : List ValueOption) (p : Progress) (argument : String) :
    Except UsageError Progress :=
  if p.separated then .error .unknownArgument
  else
    match p.pending, Shape.of argument with
    | some (option, none), .plain => .ok { p with pending := some (option, some argument) }
    | some (option, none), shape =>
      if option.takesHyphen then .ok { p with pending := some (option, some argument) }
      else p.readShape options shape
    | _, shape => p.readShape options shape

def readAll (options : List ValueOption) : Progress → List String → Except UsageError Progress
  | p, [] => p.resolve
  | p, argument :: rest => (p.step options argument).bind (readAll options · rest)

end Progress

/-- Reads the arguments of a command. The timeline needs its mode. -/
def Command.read (command : Command) (verbose : Bool) (arguments : List String) :
    Except UsageError Arguments := do
  let p ← Progress.start.readAll command.options arguments
  if command = .timeline ∧ (mode? p.settings).isNone then .error .missingOption
  else return ⟨command, verbose || p.verbose, p.settings⟩

/-- What is asked for after `help`: the program or one of the commands, `help` among them. -/
def readHelp : List String → UsageError
  | [] => .help
  | [name] => if name = "help" ∨ (Command.ofName? name).isSome then .help else .unknownCommand
  | _ => .unknownCommand

/-- Reads the arguments before the command, and then those of the command. -/
def readFrom : Progress → List String → Except UsageError Arguments
  | p, [] => .error (if p.verbose then .missingCommand else .nothingGiven)
  | p, argument :: rest =>
    let command := Command.ofName? argument
    if p.separated then
      .error (if argument = "help" ∨ command.isSome then .unknownArgument else .unknownCommand)
    else match command with
      | some command => command.read p.verbose rest
      | none =>
        if argument = "help" then .error (readHelp rest)
        else match Shape.of argument with
          | .separator => readFrom { p with separated := true } rest
          | .long name value => (p.long [] Progress.programEnds.1 name value).bind (readFrom · rest)
          | .short letters => (p.short Progress.programEnds.2 letters).bind (readFrom · rest)
          | .plain => .error .unknownCommand

/-- Reads the arguments of the program, without its name. -/
def Arguments.parse (arguments : List String) : Except UsageError Arguments :=
  readFrom .start arguments

end CommandLine

end NewsSearch
