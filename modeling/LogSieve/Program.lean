import LogSieve.CommandLine.Reader
import LogSieve.Report
import LogSieve.Search
import LogSieve.Settings

/-!
# The program

What a run of the program does: it reads the settings, carries out the command, and writes the
report to the standard output or to a file. A run that fails writes nothing but an error message.
-/

namespace LogSieve

/-- What the program sees of its environment. -/
structure Environment where
  /-- `LOG_SEARCH_DATA`, the record file if no option names one. -/
  data : Option String := none
  /-- `CLICOLOR_FORCE`, which asks for colours unless it is `0`. -/
  forceColor : Option String := none
  /-- `NO_COLOR`, which asks for none. -/
  noColor : Option String := none
  /-- `CLICOLOR`, which takes the colours from a terminal if it is `0`. -/
  terminalColor : Option String := none
  /-- Is the standard output a terminal? -/
  terminal : Bool := false

/-- Why a run fails. -/
inductive RunFault where
  /-- There are no settings. -/
  | settings (fault : Settings.Fault)
  /-- Nothing names a record file. -/
  | noRecordFile
  /-- The query cannot be read. -/
  | query (fault : FilterFault)
  /-- The search has no result. -/
  | search (fault : SearchFault)
  /-- The report cannot be written to its file. -/
  | output (path : String) (fault : FileFault)

namespace RunFault

/-- A filter's fault with what is behind it. -/
def filterMessage (fault : FilterFault) : String := fault.details ++ ": " ++ fault.message

/-- The fault in words, with what is behind it. -/
def message : RunFault → String
  | settings fault =>
    "Failed to load config: " ++ fault.message ++ ((fault.cause?.map (": " ++ ·)).getD "")
  | noRecordFile =>
    "No record file given; pass --data <FILE> or set data_path in the config"
  | query fault => filterMessage fault
  | search (.badRequest fault) => filterMessage fault
  | search (.storage fault) => fault.message ++ ": " ++ fault.cause
  | output path fault => "Failed to write output file '" ++ path ++ "': " ++ fault.message

/-- The exit code: 2 if the query or its filter is at fault, 1 otherwise. -/
def exitCode : RunFault → Nat
  | query _ => 2
  | search (.badRequest _) => 2
  | _ => 1

end RunFault

/-- What a run leaves behind, apart from files. -/
structure Outcome where
  /-- The exit code. -/
  code : Nat
  /-- What was written to the standard output. -/
  stdout : String := ""
  /-- What was written to the standard error output. -/
  stderr : String := ""
deriving DecidableEq

namespace Program

/-- Are reports coloured? -/
def colored (mode : ColorMode) (environment : Environment) : Bool :=
  match mode with
  | .always => true
  | .never => false
  | .auto =>
    if environment.forceColor.any (· != "0") then true
    else if environment.noColor.isSome then false
    else environment.terminal && environment.terminalColor != some "0"

/-- A text that ends with a line feed. -/
def endLine (text : String) : String :=
  if text.toList.getLast? = some '\n' then text else text ++ "\n"

section

variable [RegexEngine] {m : Type → Type} [Monad m] [FileAccess m]

/-- The result of a search over the record file that the options or the settings name. -/
def searching (options : Options) (settings : Settings)
    (search : Store m LogRecord → m (Except SearchFault (List LogRecord))) :
    m (Except RunFault (List LogRecord)) := do
  match options.data.or settings.dataPath with
  | none => return .error .noRecordFile
  | some path => return (← search (.ofFile path)).mapError .search

/-- The records that an advanced search finds; none if the query is empty. -/
def advanced (options : Options) (settings : Settings) (query : Option String) :
    m (Except RunFault (List LogRecord)) := do
  let text := String.ofList (Text.trim (query.getD "").toList)
  if text.isEmpty then return .ok []
  else
    match Search.parseQuery settings.lenient text with
    | .error fault => return .error (.query fault)
    | .ok raw =>
      searching options settings
        (Search.advanced · LogRecord.schema settings.limit raw)

/-- The report that a command asks for. -/
def report (invocation : Invocation) (settings : Settings) (colored : Bool) :
    m (Except RunFault String) := do
  let options := invocation.options
  let format := options.format.getD settings.format
  match invocation.command with
  | .fields => return .ok (Report.fields format colored LogRecord.schema .builtin)
  | .search browser country =>
    let found ← searching options settings (Search.simple · LogRecord.schema browser country)
    return found.map (Report.results format colored)
  | .advancedSearch query =>
    let found ← advanced options settings query
    return found.map (Report.results format colored)

/-- Writes a report where the options say: the text that goes to the standard output. -/
def deliver (options : Options) (report : String) : m (Except RunFault String) := do
  match options.output with
  | none => return .ok (endLine report)
  | some path => return ((← writeFile path report).mapError (.output path)).map fun _ => ""

/-- The text for the standard output, and before that all effects of a run. -/
def carryOut (invocation : Invocation) (colored : Bool) : m (Except RunFault String) := do
  match ← Settings.load invocation.options.config with
  | .error fault => return .error (.settings fault)
  | .ok settings =>
    match ← report invocation settings colored with
    | .error fault => return .error fault
    | .ok report => deliver invocation.options report

/-- Runs the program for a command line that was understood. -/
def run (environment : Environment) (invocation : Invocation) : m Outcome := do
  let colored := colored (invocation.options.color.getD .auto) environment
  match ← carryOut invocation colored with
  | .ok stdout => return { code := 0, stdout }
  | .error fault =>
    let mark := String.ofList (Report.styled colored "1;31" "error:")
    return { code := fault.exitCode, stderr := mark ++ " " ++ fault.message ++ "\n" }

end

end Program

end LogSieve
