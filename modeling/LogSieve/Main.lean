import LogSieve.Program

/-!
# Command line

The program on real files, with the environment and the outputs of its process.
-/

namespace LogSieve

/-- What a failure of the system means for a file. -/
def fileFault (error : IO.Error) : FileFault :=
  match error with
  | .noFileOrDirectory .. => .notFound
  | .permissionDenied .. => .denied
  | .inappropriateType _ 20 _ => .notDirectory
  | .inappropriateType _ 21 _ => .isDirectory
  | _ => .other error.toString

instance : FileAccess IO where
  readFile path := do
    try
      match String.fromUTF8? (← IO.FS.readBinFile path) with
      | some text => return .ok text
      | none => return .error .notText
    catch error => return .error (fileFault error)
  writeFile path text := do
    try
      IO.FS.writeBinFile path text.toUTF8
      return .ok ()
    catch error => return .error (fileFault error)

/-- The version that the program shows. -/
def version : String := "0.1.0"

/-- How the program is used. -/
def usage : String :=
  "Usage: log-search [OPTIONS] <COMMAND>\n\nCommands:\n" ++
  "  search <BROWSER> <COUNTRY>  Records whose browser or country contains the given terms\n" ++
  "  advanced-search [QUERY]     Records matching a JSON filter\n" ++
  "  fields                      List the searchable fields and operators\n" ++
  "  help                        Print this message\n\nOptions:\n" ++
  "  -d, --data <FILE>      JSON file holding the log records [env: LOG_SEARCH_DATA]\n" ++
  "  -c, --config <FILE>    TOML config file\n" ++
  "  -F, --format <FORMAT>  Output format [possible values: text, json]\n" ++
  "  -o, --output <FILE>    Write results to this file instead of stdout\n" ++
  "  -v, --verbose          Increase log verbosity\n" ++
  "  -q, --quiet            Only log errors\n" ++
  "      --color <COLOR>    When to colorize output [possible values: auto, always, never]\n" ++
  "  -h, --help             Print help\n" ++
  "  -V, --version          Print version\n"

/-- A refused command line in words. -/
def UsageFault.words : UsageFault → String
  | helpAsked => usage
  | versionAsked => "log-search " ++ version ++ "\n"
  | nothingAsked => usage
  | noCommand => "error: a subcommand is required but was not provided\n\n" ++ usage
  | unknownCommand => "error: unrecognized subcommand\n\n" ++ usage
  | unknownArgument => "error: unexpected argument found\n\n" ++ usage
  | badValue => "error: an option has an invalid value, or none\n\n" ++ usage
  | valueForFlag => "error: unexpected value for a flag\n\n" ++ usage
  | repeated => "error: an option cannot be used multiple times\n\n" ++ usage
  | missingWord => "error: required arguments were not provided\n\n" ++ usage

/-- The environment of the process. -/
def processEnvironment : IO Environment := do
  return {
    data := ← IO.getEnv "LOG_SEARCH_DATA"
    forceColor := ← IO.getEnv "CLICOLOR_FORCE"
    noColor := ← IO.getEnv "NO_COLOR"
    terminalColor := ← IO.getEnv "CLICOLOR"
    terminal := ← (← IO.getStdout).isTty }

/-- Runs the program. -/
def runProcess (arguments : List String) : IO UInt32 := do
  let environment ← processEnvironment
  match CommandLine.read environment.data arguments with
  | .error fault =>
    if fault.exitCode = 0 then IO.print fault.words else IO.eprint fault.words
    return fault.exitCode.toUInt32
  | .ok invocation =>
    let outcome ← Program.run environment invocation
    IO.print outcome.stdout
    IO.eprint outcome.stderr
    return outcome.code.toUInt32

end LogSieve

/-- The program. -/
def main (arguments : List String) : IO UInt32 := LogSieve.runProcess arguments
