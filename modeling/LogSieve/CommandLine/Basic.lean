import LogSieve.Report.Format

/-!
# Command lines

What the program can be asked to do, with which options, and why a command line is refused.
-/

namespace LogSieve

/-! ### Requests -/

/-- When reports are coloured. -/
inductive ColorMode where
  /-- When the environment or the terminal asks for it. -/
  | auto
  /-- Always. -/
  | always
  /-- Never. -/
  | never
deriving DecidableEq

/-- The name of a mode. -/
def ColorMode.name : ColorMode → String
  | auto => "auto"
  | always => "always"
  | never => "never"

/-- The mode of a name. -/
def ColorMode.ofName? (name : String) : Option ColorMode :=
  [ColorMode.auto, .always, .never].find? fun mode => mode.name == name

/-- What the program is asked to do. -/
inductive Command where
  /-- Find the records of a browser or a country. -/
  | search (browser country : String)
  /-- Find the records that match a query. -/
  | advancedSearch (query : Option String)
  /-- List the fields and operators. -/
  | fields
deriving DecidableEq

/-- The options that may be given before the command and behind it. -/
structure Options where
  /-- The record file. -/
  data : Option String := none
  /-- The settings file. -/
  config : Option String := none
  /-- The format of the report. -/
  format : Option ReportFormat := none
  /-- The file that the report is written to. -/
  output : Option String := none
  /-- How often more log lines were asked for. -/
  verbose : Nat := 0
  /-- Are only errors to be logged? -/
  quiet : Bool := false
  /-- When the report is coloured. -/
  color : Option ColorMode := none
deriving DecidableEq

/-- A command line that was understood. -/
structure Invocation where
  /-- The options. -/
  options : Options
  /-- What to do. -/
  command : Command
deriving DecidableEq

/-! ### Log levels -/

/-- How much is logged. -/
inductive LogLevel where
  /-- Errors only. -/
  | error
  /-- Warnings too. -/
  | warn
  /-- The course of the program too. -/
  | info
  /-- Its details too. -/
  | debug
  /-- Everything. -/
  | trace
deriving DecidableEq

/-- The name of a level. -/
def LogLevel.name : LogLevel → String
  | error => "ERROR"
  | warn => "WARN"
  | info => "INFO"
  | debug => "DEBUG"
  | trace => "TRACE"

/-- The level that the options ask for; quiet wins over verbose. -/
def Options.level (options : Options) : LogLevel :=
  if options.quiet then .error
  else
    match options.verbose with
    | 0 => .warn
    | 1 => .info
    | 2 => .debug
    | _ => .trace

/-! ### Refusals -/

/-- Why a command line is not carried out. -/
inductive UsageFault where
  /-- It asks for help. -/
  | helpAsked
  /-- It asks for the version. -/
  | versionAsked
  /-- It is empty, so that help is shown. -/
  | nothingAsked
  /-- It has options but no command. -/
  | noCommand
  /-- No such command. -/
  | unknownCommand
  /-- No such option, or a word too many. -/
  | unknownArgument
  /-- An option has no value, or one that it does not take. -/
  | badValue
  /-- A flag has a value. -/
  | valueForFlag
  /-- An option or flag is given twice. -/
  | repeated
  /-- A command lacks a word. -/
  | missingWord
deriving DecidableEq

/-- The exit code of the program after a refusal. -/
def UsageFault.exitCode : UsageFault → Nat
  | helpAsked => 0
  | versionAsked => 0
  | _ => 2

end LogSieve
