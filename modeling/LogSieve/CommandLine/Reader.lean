import LogSieve.CommandLine.Basic

/-!
# Reading command lines

A command line has two levels: what stands before the command and what stands behind it. Options
may be given on either, but only once on each. An option's value is taken up when the next option,
flag or word follows it or its level ends, so that of two faults the one further right may be
found first.
-/

namespace LogSieve.CommandLine

/-! ### Names -/

/-- Options that take a value. -/
inductive OptionName where
  /-- The record file. -/
  | data
  /-- The settings file. -/
  | config
  /-- The format of the report. -/
  | format
  /-- The file that the report is written to. -/
  | output
  /-- When the report is coloured. -/
  | color

/-- Flags. -/
inductive FlagName where
  /-- Log more. -/
  | verbose
  /-- Log errors only. -/
  | quiet
  /-- Show help. -/
  | help
  /-- Show the version. -/
  | version

/-- What a name that starts with a dash stands for. -/
inductive Switch where
  /-- An option with a value. -/
  | option (name : OptionName)
  /-- A flag. -/
  | flag (name : FlagName)

/-- The commands by name. -/
inductive CommandName where
  /-- Find the records of a browser or a country. -/
  | search
  /-- Find the records that match a query. -/
  | advancedSearch
  /-- List the fields and operators. -/
  | fields
deriving DecidableEq

/-- Where an argument stands. -/
inductive Level where
  /-- Before the command. -/
  | top
  /-- Behind the command. -/
  | inner (command : CommandName)

/-- How many words a level takes. -/
def Level.words : Level → Nat
  | top => 0
  | inner .search => 2
  | inner .advancedSearch => 1
  | inner .fields => 0

/-- The switch of a name after two dashes. -/
def Level.ofLong? (level : Level) (name : String) : Option Switch :=
  if name == "data" then some (.option .data)
  else if name == "config" then some (.option .config)
  else if name == "format" then some (.option .format)
  else if name == "output" then some (.option .output)
  else if name == "color" then some (.option .color)
  else if name == "verbose" then some (.flag .verbose)
  else if name == "quiet" then some (.flag .quiet)
  else if name == "help" then some (.flag .help)
  else
    match level with
    | .top => if name == "version" then some (.flag .version) else none
    | .inner _ => none

/-- The switch of a letter after one dash. -/
def Level.ofShort? (level : Level) (letter : Char) : Option Switch :=
  match letter with
  | 'd' => some (.option .data)
  | 'c' => some (.option .config)
  | 'F' => some (.option .format)
  | 'o' => some (.option .output)
  | 'v' => some (.flag .verbose)
  | 'q' => some (.flag .quiet)
  | 'h' => some (.flag .help)
  | 'V' =>
    match level with
    | .top => some (.flag .version)
    | .inner _ => none
  | _ => none

/-- The command of a name. -/
def commandOf? (name : String) : Option CommandName :=
  if name == "search" then some .search
  else if name == "advanced-search" then some .advancedSearch
  else if name == "fields" then some .fields
  else none

/-- Is this the name of a command, `help` included? -/
def isCommand (name : String) : Bool := name == "help" || (commandOf? name).isSome

/-! ### One level -/

/-- What has been read of a level. -/
structure Progress where
  /-- The options taken up. -/
  options : Options := {}
  /-- The last option, if it has not been taken up yet, with its value once that is read. -/
  pending : Option (OptionName × Option String) := none
  /-- The words. -/
  words : List String := []
  /-- Have two dashes been read, so that all that follows are words? -/
  wordsOnly : Bool := false

/-- A value that is given for the first time on its level. -/
def once {α : Type} (present : Option α) (value : Option α) : Except UsageFault (Option α) :=
  if present.isSome then .error .repeated
  else
    match value with
    | some value => .ok (some value)
    | none => .error .badValue

/-- The path of a file, which must not be empty. -/
def path? (value : String) : Option String := if value.isEmpty then none else some value

/-- The options with a value given for one of them. -/
def give (options : Options) (name : OptionName) (value : String) : Except UsageFault Options :=
  match name with
  | .data => do return { options with data := ← once options.data (path? value) }
  | .config => do return { options with config := ← once options.config (path? value) }
  | .format => do
    return { options with format := ← once options.format (ReportFormat.ofName? value) }
  | .output => do return { options with output := ← once options.output (path? value) }
  | .color => do
    return { options with color := ← once options.color (ColorMode.ofName? value) }

namespace Progress

/-- Takes up the pending option. -/
def settle (progress : Progress) : Except UsageFault Progress :=
  match progress.pending with
  | none => .ok progress
  | some (_, none) => .error .badValue
  | some (name, some value) => do
    return { progress with options := ← give progress.options name value, pending := none }

/-- Takes a flag. -/
def flag (progress : Progress) (name : FlagName) : Except UsageFault Progress := do
  let progress ← progress.settle
  match name with
  | .help => throw .helpAsked
  | .version => throw .versionAsked
  | .verbose =>
    let verbose := min (progress.options.verbose + 1) 255
    return { progress with options := { progress.options with verbose } }
  | .quiet =>
    if progress.options.quiet then throw .repeated
    return { progress with options := { progress.options with quiet := true } }

/-- Takes an option; a value that is attached to it is taken up at once. -/
def option (progress : Progress) (name : OptionName) (attached : Option String) :
    Except UsageFault Progress := do
  let progress ← progress.settle
  match attached with
  | some value => return { progress with options := ← give progress.options name value }
  | none => return { progress with pending := some (name, none) }

/-- Takes letters after one dash: flags, up to the first option, to which the rest is attached as
its value, without an equals sign. -/
def letters (level : Level) (progress : Progress) : List Char → Except UsageFault Progress
  | [] => .ok progress
  | letter :: rest =>
    match level.ofShort? letter with
    | none => .error .unknownArgument
    | some (.flag name) => do letters level (← progress.flag name) rest
    | some (.option name) =>
      let attached :=
        match rest with
        | [] => none
        | '=' :: value => some (String.ofList value)
        | value => some (String.ofList value)
      progress.option name attached

/-- Takes a name after two dashes, with a value behind an equals sign if there is one. -/
def long (level : Level) (progress : Progress) (text : List Char) : Except UsageFault Progress :=
  let name := text.takeWhile (· ≠ '=')
  let attached :=
    match text.dropWhile (· ≠ '=') with
    | [] => none
    | _ :: value => some (String.ofList value)
  match level.ofLong? (String.ofList name), attached with
  | none, _ => .error .unknownArgument
  | some (.option name), attached => progress.option name attached
  | some (.flag name), none => progress.flag name
  | some (.flag _), some _ => .error .valueForFlag

/-- Takes a word. Before the command none is allowed. -/
def word (level : Level) (progress : Progress) (text : String) : Except UsageFault Progress :=
  if progress.words.length < level.words then do
    let progress ← progress.settle
    return { progress with words := progress.words ++ [text] }
  else
    match level with
    | .inner _ => .error .unknownArgument
    | .top =>
      if progress.wordsOnly && isCommand text then .error .unknownArgument
      else .error .unknownCommand

/-- Takes an argument that is not a command. -/
def argument (level : Level) (progress : Progress) (text : String) : Except UsageFault Progress :=
  if progress.wordsOnly then progress.word level text
  else
    match text.toList, progress.pending with
    | ['-', '-'], _ => .ok { progress with wordsOnly := true }
    | '-' :: '-' :: rest, _ => progress.long level rest
    | '-' :: c :: rest, _ => progress.letters level (c :: rest)
    | _, some (name, none) => .ok { progress with pending := some (name, some text) }
    | _, _ => progress.word level text

/-- Is the next argument the value of an option, unless it starts with a dash? -/
def awaitsValue (progress : Progress) : Bool :=
  match progress.pending with
  | some (_, none) => true
  | _ => false

end Progress

/-! ### Both levels -/

/-- The end of a level: the last option is taken up, and the record file named by the environment
must not be the empty path where none is given. -/
def finish (environmentData : Option String) (progress : Progress) :
    Except UsageFault Progress := do
  let progress ← progress.settle
  if progress.options.data.isNone && environmentData == some "" then throw .badValue
  return progress

/-- Reads what stands behind a command. -/
def readInner (command : CommandName) (progress : Progress) :
    List String → Except UsageFault Progress
  | [] => .ok progress
  | text :: rest => do readInner command (← progress.argument (.inner command) text) rest

/-- The command of a name with its words. -/
def commandWith (name : CommandName) (words : List String) : Except UsageFault Command :=
  match name, words with
  | .search, [browser, country] => .ok (.search browser country)
  | .search, _ => .error .missingWord
  | .advancedSearch, words => .ok (.advancedSearch words.head?)
  | .fields, _ => .ok .fields

/-- What `help` followed by some words asks for: at most one command. -/
def helpOn : List String → UsageFault
  | [] => .helpAsked
  | [name] => if isCommand name then .helpAsked else .unknownCommand
  | _ => .unknownCommand

/-- What both levels ask for together. An option behind the command wins over one before it, and
both win over the environment. -/
def merge (environmentData : Option String) (top inner : Options) : Options where
  data := (inner.data.or top.data).or environmentData
  config := inner.config.or top.config
  format := inner.format.or top.format
  output := inner.output.or top.output
  verbose := if inner.verbose = 0 then top.verbose else inner.verbose
  quiet := inner.quiet || top.quiet
  color := inner.color.or top.color

/-- Reads a command line from the given progress of its top level on. -/
def readTop (environmentData : Option String) (progress : Progress) :
    List String → Except UsageFault Invocation
  | [] => do
    let progress ← finish environmentData progress
    if progress.options = {} && environmentData.isNone then throw .nothingAsked
    throw .noCommand
  | text :: rest =>
    if progress.wordsOnly || progress.awaitsValue then do
      readTop environmentData (← progress.argument .top text) rest
    else if text == "help" then .error (helpOn rest)
    else
      match commandOf? text with
      | none => do readTop environmentData (← progress.argument .top text) rest
      | some name => do
        let inner ← finish environmentData (← readInner name {} rest)
        let command ← commandWith name inner.words
        let top ← finish environmentData progress
        return ⟨merge environmentData top.options inner.options, command⟩

/-- Reads a command line, without the name of the program. `environmentData` is the record file
that the environment names, if it names one. -/
def read (environmentData : Option String) (arguments : List String) :
    Except UsageFault Invocation :=
  readTop environmentData {} arguments

end LogSieve.CommandLine
