/-!
# Entries in order of their keys

Tables from texts to values, as lists of entries whose keys ascend: one entry a key. `put` keeps
the order, and `lookup` finds a value.
-/

namespace LogSieve.Entries

/-- The entries with `key` bound to `value`: an entry of that key is replaced, and otherwise one is
inserted in order. -/
def put {α : Type} (key : String) (value : α) : List (String × α) → List (String × α)
  | [] => [(key, value)]
  | entry :: rest =>
    if key < entry.1 then (key, value) :: entry :: rest
    else if key = entry.1 then (key, value) :: rest
    else entry :: put key value rest

/-- The table of the given entries; of several with one key the last one counts. -/
def ofList {α : Type} (entries : List (String × α)) : List (String × α) :=
  entries.foldl (fun table entry => put entry.1 entry.2 table) []

/-- The value bound to a key. -/
def lookup {α : Type} (key : String) (entries : List (String × α)) : Option α :=
  (entries.find? fun entry => entry.1 == key).map (·.2)

end LogSieve.Entries
