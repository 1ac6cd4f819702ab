import LogSieve.File.Access
import LogSieve.Filter.Grammar
import LogSieve.Report.Format
import LogSieve.Toml.Document

/-!
# Settings

What a settings file may say: where the records are, how queries are read, and how results are
reported. The file is TOML text; keys that mean nothing are passed over, and what is not said has a
default.
-/

namespace LogSieve

/-- The settings of a search. -/
structure Settings where
  /-- The record file, if one is set. -/
  dataPath : Option String := none
  /-- How deep filters may be nested. -/
  limit : Nat := Filter.defaultLimit
  /-- May a query be relaxed JSON? -/
  lenient : Bool := true
  /-- The format of reports. -/
  format : ReportFormat := .text
deriving DecidableEq

namespace Settings

/-! ### From TOML -/

/-- The values of a group of settings by the places of its keys: a table gives them under the keys,
an array in order. A date counts as a table without any of the keys. Nothing else is a group. -/
def group? (keys : List String) : Toml → Option (List (Option Toml))
  | .table _ entries => some (keys.map fun key => Entries.lookup key entries)
  | .array items => some ((List.range keys.length).map fun i => items[i]?)
  | .tables items =>
    let items := items.reverse.map (Toml.table .header)
    some ((List.range keys.length).map fun i => items[i]?)
  | .dateTime _ => some (keys.map fun _ => none)
  | _ => none

/-- A value read as `read?` reads it, or the default if it is not given. -/
def valueOr {α : Type} (default : α) (read? : Toml → Option α) : Option Toml → Option α
  | none => some default
  | some value => read? value

/-- A text. -/
def text? : Toml → Option String
  | .string s => some s
  | _ => none

/-- A number that is not negative. -/
def count? : Toml → Option Nat
  | .integer (.ofNat n) => some n
  | _ => none

/-- A truth value. -/
def flag? : Toml → Option Bool
  | .boolean b => some b
  | _ => none

/-- Is the value an empty table or array? -/
def isEmpty : Toml → Bool
  | .table _ entries => entries.isEmpty
  | .array items => items.isEmpty
  | _ => false

/-- The format of a report: its name, or a table with its name as the only key and nothing under
it. -/
def format? : Toml → Option ReportFormat
  | .string name => ReportFormat.ofName? name
  | .table _ [(name, value)] => if isEmpty value then ReportFormat.ofName? name else none
  | _ => none

/-- The settings that a table gives, unless a value is not of its kind. -/
def ofTable? (table : Toml.Table) : Option Settings := do
  let dataPath ← valueOr none (fun v => (text? v).map some) (Entries.lookup "data_path" table)
  let query ← valueOr [] (group? ["max_depth", "lenient_json"]) (Entries.lookup "query" table)
  let output ← valueOr [] (group? ["format"]) (Entries.lookup "output" table)
  return {
    dataPath
    limit := ← valueOr Filter.defaultLimit count? (query[0]?.join)
    lenient := ← valueOr true flag? (query[1]?.join)
    format := ← valueOr .text format? (output[0]?.join) }

/-! ### From a file -/

/-- Why there are no settings. -/
inductive Fault where
  /-- The settings file cannot be read. -/
  | unreadable (path : String) (fault : FileFault)
  /-- The settings file is not TOML text, or a value in it is not of its kind. -/
  | malformed (path : String)
  /-- The file allows no nesting, not even a single comparison. -/
  | noDepth (path : String)
deriving DecidableEq

namespace Fault

/-- What is behind the fault, in words. -/
def cause? : Fault → Option String
  | unreadable _ fault => some fault.message
  | _ => none

/-- The fault in words. -/
def message : Fault → String
  | unreadable path fault => "Failed to read config file '" ++ path ++ "': " ++ fault.message
  | malformed path => "Failed to parse config file '" ++ path ++ "'"
  | noDepth path => "Invalid config file '" ++ path ++ "': query.max_depth must be at least 1"

end Fault

/-- The settings in the text of a file at `path`. -/
def parse (path text : String) : Except Fault Settings :=
  match (Toml.parse? text).bind ofTable? with
  | none => .error (.malformed path)
  | some settings => if settings.limit = 0 then .error (.noDepth path) else .ok settings

/-- The settings of the file at a path, or the defaults without a file. -/
def load {m : Type → Type} [Monad m] [FileAccess m] (path : Option String) :
    m (Except Fault Settings) := do
  match path with
  | none => return .ok {}
  | some path =>
    match ← readFile path with
    | .error fault => return .error (.unreadable path fault)
    | .ok text => return parse path text

end Settings

end LogSieve
