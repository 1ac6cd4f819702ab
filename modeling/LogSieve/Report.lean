import LogSieve.Filter.Registry
import LogSieve.Record.Basic
import LogSieve.Report.Format
import LogSieve.Report.Table

/-!
# Reports

What a search has found, and which fields and operators there are: as text with a table, or as
JSON. The titles of a text may be set in bold for a terminal.
-/

namespace LogSieve

namespace Report

/-! ### Text -/

/-- The escape sequence that sets how a terminal shows the text behind it. -/
def style (code : List Char) : List Char := '\x1b' :: '[' :: (code ++ ['m'])

/-- The escape sequence that ends all styles. -/
def plain : List Char := style ['0']

/-- The text in which the style is set again wherever the text itself ends it. -/
def restyle (code : List Char) : List Char → List Char
  | '\x1b' :: '[' :: '0' :: 'm' :: rest => plain ++ style code ++ restyle code rest
  | c :: rest => c :: restyle code rest
  | [] => []

/-- A text in the style of a code, if colours are on. -/
def styled (colored : Bool) (code text : String) : List Char :=
  if colored then style code.toList ++ restyle code.toList text.toList ++ plain else text.toList

/-- A title, in bold if colours are on. -/
def title (colored : Bool) (text : String) : List Char := styled colored "1" text

/-- Lines as a text; each of them ends with a line feed. -/
def ofLines (lines : List (List Char)) : String :=
  String.ofList (lines.flatMap (· ++ ['\n']))

/-- A text in one line: a line feed is written as a backslash and an `n`. -/
def oneLine (text : String) : String :=
  String.ofList (text.toList.flatMap fun c => if c = '\n' then ['\\', 'n'] else [c])

/-! ### Results -/

/-- How many entries were found. -/
def summary (count : Nat) : String :=
  "SEARCH matched " ++ toString count ++ (if count = 1 then " entry" else " entries")

/-- The table of results. -/
def resultTable (records : List LogRecord) : Table where
  header := ["id", "browser", "country", "page_url", "created", "message"]
  rows := records.map fun r =>
    [toString r.id.toInt, r.browser, r.country, r.pageUrl, r.created.render, oneLine r.message]

/-- The results as text. -/
def resultText (colored : Bool) (records : List LogRecord) : String :=
  ofLines (title colored (summary records.length) ::
    if records.isEmpty then ["No matching log entries found.".toList]
    else (resultTable records).lines)

/-- The results as a JSON list. -/
def resultJson (records : List LogRecord) : String :=
  (Json.arr (records.map LogRecord.toJson)).pretty

/-- The results in a format. -/
def results (format : ReportFormat) (colored : Bool) (records : List LogRecord) : String :=
  match format with
  | .text => resultText colored records
  | .json => resultJson records

/-! ### Fields and operators -/

/-- The table of the fields of a schema. -/
def fieldTable (schema : Schema) : Table where
  header := ["field", "type", "sort key"]
  rows := schema.fields.map fun field =>
    [field.name, field.kind.name, ((schema.sortRank? field.name).map toString).getD ""]

/-- The fields and operators as text. -/
def fieldText (colored : Bool) (schema : Schema) (registry : Registry) : String :=
  ofLines (title colored ("Fields of '" ++ schema.name ++ "'") ::
    (fieldTable schema).lines ++
    [title colored "Operators", ("  " ++ String.intercalate ", " registry.names).toList])

/-- The fields and operators as a JSON object. -/
def fieldJson (schema : Schema) (registry : Registry) : String :=
  (Json.ofEntries
    [("schema", .str schema.name),
      ("fields", .arr (schema.fields.map fun field =>
        .ofEntries [("name", .str field.name), ("type", .str field.kind.name)])),
      ("sort_keys", .arr (schema.sortKeys.map .str)),
      ("operators", .arr (registry.names.map .str))]).pretty

/-- The fields and operators in a format. -/
def fields (format : ReportFormat) (colored : Bool) (schema : Schema) (registry : Registry) :
    String :=
  match format with
  | .text => fieldText colored schema registry
  | .json => fieldJson schema registry

end Report

end LogSieve
