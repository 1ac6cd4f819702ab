import LogSieve.Filter.Compile
import LogSieve.Json.Reader
import LogSieve.Json.Relaxed
import LogSieve.Record.Storage

/-!
# Searching

A search keeps the records that match a filter and sorts them by the keys of their schema. The
filter is compiled before any record is fetched, so that a bad filter never touches the data.
-/

namespace LogSieve

/-! ### Records in, records out -/

/-- The order of two tuples of sorting values: that of the first place where they differ. -/
def compareKeys : List (Option Json) → List (Option Json) → Ordering
  | a :: as, b :: bs => (Json.compareForSort a b).then (compareKeys as bs)
  | _, _ => .eq

/-- The values by which a record is sorted. -/
def sortValues {R : Type} [HasFields R] (schema : Schema) (record : R) : List (Option Json) :=
  schema.sortKeys.map (HasFields.field record)

/-- The records in the order of the schema's sort keys, the most significant first. Records with
equal keys keep their order. -/
def sortRecords {R : Type} [HasFields R] (schema : Schema) (records : List R) : List R :=
  let keyed := records.map fun record => (sortValues schema record, record)
  (keyed.mergeSort fun a b => compareKeys a.1 b.1 != .gt).map (·.2)

/-- The records that meet a condition, sorted. -/
def execute {R : Type} [HasFields R] (schema : Schema) (condition : Condition)
    (records : List R) : List R :=
  sortRecords schema (records.filter fun record => condition (HasFields.field record))

/-! ### Requests -/

/-- Why a search has no result. -/
inductive SearchFault where
  /-- The request is at fault. -/
  | badRequest (fault : FilterFault)
  /-- The store is at fault. -/
  | storage (fault : StorageFault)

namespace Search

variable [RegexEngine] {m : Type → Type} [Monad m] {R : Type} [HasFields R]

/-- The result of a search whose filter has been compiled, or not. -/
def run (store : Store m R) (schema : Schema) (condition : Except FilterFault Condition) :
    m (Except SearchFault (List R)) := do
  match condition with
  | .error fault => return .error (.badRequest fault)
  | .ok condition =>
    match ← store.fetchAll with
    | .error fault => return .error (.storage fault)
    | .ok records => return .ok (execute schema condition records)

/-- The records that match a filter. -/
def filtered (store : Store m R) (schema : Schema) (filter : Filter) :
    m (Except SearchFault (List R)) :=
  run store schema (Compiler.compile { schema } filter)

/-- The records that match a filter given as JSON, nested within a limit. -/
def advanced (store : Store m R) (schema : Schema) (limit : Nat) (raw : Json) :
    m (Except SearchFault (List R)) :=
  run store schema (Compiler.compileJson { schema, limit } raw)

/-- The filter of a simple search: the browser contains the one term, or the country the other. -/
def simpleFilter (browser country : String) : Filter :=
  .group .or
    [.compare "browser" "contains" (.str browser), .compare "country" "contains" (.str country)]

/-- The records that match a simple search. -/
def simple (store : Store m R) (schema : Schema) (browser country : String) :
    m (Except SearchFault (List R)) :=
  filtered store schema (simpleFilter browser country)

/-- The value of a query text. With `lenient` set, a text that is not strict JSON may be relaxed
JSON; if it is neither, the strict reading tells why. -/
def parseQuery (lenient : Bool) (text : String) : Except FilterFault Json :=
  match Json.parse text with
  | .ok value => .ok value
  | .error fault =>
    match if lenient then Json.Relaxed.parse? text else none with
    | some value => .ok value
    | none => .error (.malformed (.notJson fault))

end Search

end LogSieve
