/-!
# Schemas

Which fields the records of one type have, of which kind they are, and by which of them results are
sorted.
-/

namespace LogSieve

/-- The kind of a field's values. -/
inductive FieldKind where
  /-- Whole numbers. -/
  | integer
  /-- Text. -/
  | text
  /-- Points in time. -/
  | timestamp
deriving DecidableEq

/-- The kind in words. -/
def FieldKind.name : FieldKind → String
  | .integer => "integer"
  | .text => "text"
  | .timestamp => "timestamp"

/-- A field of a record type. -/
structure Field where
  /-- The name by which it is asked for. -/
  name : String
  /-- The kind of its values. -/
  kind : FieldKind
deriving DecidableEq

/-- The description of a record type. -/
structure Schema where
  /-- The name of the record type. -/
  name : String
  /-- The declared fields, in order of declaration. -/
  fields : List Field
  /-- The names of the fields that results are sorted by, the most significant first. -/
  sortKeys : List String

namespace Schema

/-- The schema with the given fields. Sort keys that name no field are dropped. -/
def ofFields (name : String) (fields : List Field) (sortKeys : List String) : Schema where
  name
  fields
  sortKeys := sortKeys.filter fun key => fields.any fun field => field.name == key

/-- The field of a name; of several the one declared last. -/
def field? (schema : Schema) (name : String) : Option Field :=
  schema.fields.reverse.find? fun field => field.name == name

/-- Does the schema declare a field of this name? -/
def hasField (schema : Schema) (name : String) : Bool :=
  schema.fields.any fun field => field.name == name

/-- The rank of a field among the sort keys, from 1. -/
def sortRank? (schema : Schema) (name : String) : Option Nat :=
  (schema.sortKeys.findIdx? (· == name)).map (· + 1)

end Schema

end LogSieve
