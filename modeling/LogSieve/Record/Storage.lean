import LogSieve.File.Access
import LogSieve.Record.Reader

/-!
# Stores of records

Where the records of a search come from: a list in memory, or a file that is read anew each time.
-/

namespace LogSieve

/-- Why records cannot be fetched. -/
inductive StorageFault where
  /-- The record file cannot be read. -/
  | unreadable (path : String) (fault : FileFault)
  /-- The record file holds no records. -/
  | malformed (path : String) (fault : Json.Located RecordFault)

namespace StorageFault

/-- What is behind the fault, in words. -/
def cause : StorageFault → String
  | unreadable _ fault => fault.message
  | malformed _ fault => fault.message RecordFault.message

/-- The fault in words. -/
def message : StorageFault → String
  | unreadable path fault => "Failed to read record file '" ++ path ++ "': " ++ fault.message
  | malformed path fault =>
    "Failed to parse record file '" ++ path ++ "': " ++ fault.message RecordFault.message

end StorageFault

/-- A source of records. -/
structure Store (m : Type → Type) (R : Type) where
  /-- Fetches all records. -/
  fetchAll : m (Except StorageFault (List R))

namespace Store

variable {m : Type → Type} [Monad m] {R : Type}

/-- The store that holds the given records. -/
def ofList (records : List R) : Store m R := ⟨return .ok records⟩

/-- The store of the log records in a file. -/
def ofFile [FileAccess m] (path : String) : Store m LogRecord where
  fetchAll := do
    match ← readFile path with
    | .error fault => return .error (.unreadable path fault)
    | .ok text => return (parseRecords text).mapError (.malformed path)

end Store

end LogSieve
