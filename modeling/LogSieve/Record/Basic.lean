import LogSieve.Filter.Condition
import LogSieve.Json.Printer
import LogSieve.Record.Timestamp
import LogSieve.Schema

/-!
# Log records

The messages that the library searches, and records of any other type, given as JSON objects.
-/

namespace LogSieve

/-- A record given by the entries of a JSON object. -/
structure Row where
  /-- The fields with their values. -/
  entries : List (String × Json)

instance : HasFields Row := ⟨fun row name => Entries.lookup name row.entries⟩

/-- A log message of a client. -/
structure LogRecord where
  /-- The number of the record. -/
  id : Int64
  /-- The family of the browser that sent the message. -/
  browser : String
  /-- The page that was shown; may be empty. -/
  pageUrl : String
  /-- The country of the client. -/
  country : String
  /-- The message itself. -/
  message : String
  /-- When the message was created. -/
  created : Timestamp
deriving DecidableEq

namespace LogRecord

/-- The fields of log records, sorted by number. -/
def schema : Schema :=
  .ofFields "log"
    [⟨"id", .integer⟩, ⟨"browser", .text⟩, ⟨"page_url", .text⟩, ⟨"country", .text⟩,
      ⟨"message", .text⟩, ⟨"created", .timestamp⟩]
    ["id"]

instance : HasFields LogRecord where
  field record name :=
    match name with
    | "id" => some (.int record.id.toInt)
    | "browser" => some (.str record.browser)
    | "page_url" => some (.str record.pageUrl)
    | "country" => some (.str record.country)
    | "message" => some (.str record.message)
    | "created" => some (.str record.created.render)
    | _ => none

/-- The record as a JSON object. -/
def toJson (record : LogRecord) : Json :=
  .ofEntries
    [("id", .int record.id.toInt), ("browser", .str record.browser),
      ("page_url", .str record.pageUrl), ("country", .str record.country),
      ("message", .str record.message), ("created", .str record.created.render)]

/-- The entries that a record is serialized as, in order of declaration. -/
def entries (record : LogRecord) : List (String × Json) :=
  [("id", .int record.id.toInt), ("browser", .str record.browser),
    ("page_url", .str record.pageUrl), ("country", .str record.country),
    ("message", .str record.message), ("created", .str record.created.render)]

/-- The text of a list of records: a JSON list of objects without blanks. -/
def serialize (records : List LogRecord) : String :=
  (Json.arr (records.map fun record => .obj record.entries)).compact

end LogRecord

end LogSieve
