/-!
# Formats of reports

The two forms in which the library reports.
-/

namespace LogSieve

/-- The form of a report. -/
inductive ReportFormat where
  /-- Text with a table. -/
  | text
  /-- JSON. -/
  | json
deriving DecidableEq

/-- The name of a format. -/
def ReportFormat.name : ReportFormat → String
  | text => "text"
  | json => "json"

/-- The format of a name. -/
def ReportFormat.ofName? (name : String) : Option ReportFormat :=
  [ReportFormat.text, .json].find? fun format => format.name == name

end LogSieve
