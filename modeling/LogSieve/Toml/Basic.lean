import LogSieve.Entries

/-!
# TOML values

Values of TOML text, and how tables grow: a statement of a document adds an entry to a table that
it names by a path of keys. Which tables may still be added to depends on how they came about.
-/

namespace LogSieve

/-- How a table came about. -/
inductive TableOrigin where
  /-- By a value between braces. -/
  | braces
  /-- By a header that names it. -/
  | header
  /-- By a header that names a table inside it. -/
  | outerHeader
  /-- By a dotted key that leads through it. -/
  | dottedKey
deriving DecidableEq

/-- A TOML value. -/
inductive Toml where
  /-- A text. -/
  | string (value : String)
  /-- An integer. -/
  | integer (value : Int)
  /-- A floating-point number, as it is written. -/
  | float (text : String)
  /-- A truth value. -/
  | boolean (value : Bool)
  /-- A date, a time, or both, as it is written. -/
  | dateTime (text : String)
  /-- A list of values. -/
  | array (items : List Toml)
  /-- A table, its entries ascending by key. -/
  | table (origin : TableOrigin) (entries : List (String × Toml))
  /-- The tables of one repeated header, the last one first. -/
  | tables (items : List (List (String × Toml)))

namespace Toml

/-- The entries of a table. -/
abbrev Table := List (String × Toml)

/-- A value under the key of another one, or a new one. -/
def set (entries : Table) (key : String) (value : Toml) : Table := Entries.put key value entries

/-! ### Dotted keys -/

/-- The table with a value added under a dotted key, given as the keys that lead to it and the last
one. Keys that lead nowhere yet make tables. A table that was made otherwise than by a dotted key
cannot be added to, nor can a key be used twice. -/
def addAt : List String → String → Toml → Table → Option Table
  | [], key, value, entries =>
    match Entries.lookup key entries with
    | none => some (set entries key value)
    | some _ => none
  | first :: path, key, value, entries =>
    match Entries.lookup first entries with
    | none => (addAt path key value []).map fun inner => set entries first (.table .dottedKey inner)
    | some (.table .dottedKey inner) =>
      (addAt path key value inner).map fun inner => set entries first (.table .dottedKey inner)
    | some (.table .outerHeader inner) =>
      if path.isEmpty then none
      else (addAt path key value inner).map fun inner =>
        set entries first (.table .outerHeader inner)
    | some (.tables (last :: before)) =>
      if path.isEmpty then none
      else (addAt path key value last).map fun last => set entries first (.tables (last :: before))
    | some _ => none

/-! ### Headers -/

/-- The table in which the table that a path leads to is changed by `change`. A repeated header
leads to the last of its tables, and keys that lead nowhere yet make tables. -/
def changeAt (change : Table → Option Table) : List String → Table → Option Table
  | [], entries => change entries
  | first :: path, entries =>
    match Entries.lookup first entries with
    | none =>
      (changeAt change path []).map fun inner => set entries first (.table .outerHeader inner)
    | some (.table .braces _) => none
    | some (.table origin inner) =>
      (changeAt change path inner).map fun inner => set entries first (.table origin inner)
    | some (.tables (last :: before)) =>
      (changeAt change path last).map fun last => set entries first (.tables (last :: before))
    | some _ => none

/-- The table with a table opened under a key: a new one, or one that so far has only been named on
the way to others. -/
def openTable (key : String) (entries : Table) : Option Table :=
  match Entries.lookup key entries with
  | none => some (set entries key (.table .header []))
  | some (.table .outerHeader inner) => some (set entries key (.table .header inner))
  | some _ => none

/-- The table with one more table opened under a key that holds none but repeated ones. -/
def openRepeated (key : String) (entries : Table) : Option Table :=
  match Entries.lookup key entries with
  | none => some (set entries key (.tables [[]]))
  | some (.tables items) => some (set entries key (.tables ([] :: items)))
  | some _ => none

end Toml

end LogSieve
