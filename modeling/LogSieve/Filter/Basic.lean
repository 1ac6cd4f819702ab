import LogSieve.Filter.Fault
import LogSieve.Json.Printer
import LogSieve.Schema

/-!
# Filters

A filter is a comparison of one field, or a group of filters under `and`, `or` or `not`. Filters
have a canonical JSON form and a form for people.
-/

namespace LogSieve

/-! ### The tree -/

/-- How the members of a group are combined. -/
inductive Connective where
  /-- All members must hold. -/
  | and
  /-- Some member must hold. -/
  | or
  /-- Not all members may hold. -/
  | not
deriving DecidableEq

/-- The key of a group in JSON. -/
def Connective.key : Connective → String
  | and => "and"
  | or => "or"
  | not => "not"

/-- The name of a group for people. -/
def Connective.title : Connective → String
  | and => "AND"
  | or => "OR"
  | not => "NOT"

/-- The connective of a key in lower case. -/
def Connective.ofKey? (key : String) : Option Connective :=
  [Connective.and, .or, .not].find? fun kind => kind.key == key

/-- The comparison of a field with a value or with another field. -/
structure Comparison where
  /-- The field of the record. -/
  field : String
  /-- The name of the operator. -/
  operator : String
  /-- The value to compare with. -/
  argument : Option Json := none
  /-- The field to compare with. -/
  other : Option String := none

/-- A filter. -/
inductive Filter where
  /-- A comparison. -/
  | leaf (comparison : Comparison)
  /-- A group. -/
  | group (kind : Connective) (members : List Filter)

namespace Filter

instance : Inhabited Filter := ⟨group .and []⟩

/-- The filter that compares a field with a value. -/
def compare (field operator : String) (argument : Json) : Filter :=
  leaf { field, operator, argument := some argument }

/-- One filter for a list of them, all of which must hold. A single filter needs no group. -/
def ofList : List Filter → Filter
  | [filter] => filter
  | filters => group .and filters

mutual

/-- How deep groups are nested; a comparison or an empty group is one level. -/
def depth : Filter → Nat
  | leaf _ => 1
  | group _ members => 1 + depthAll members

/-- The greatest depth in a list of filters, 0 for none. -/
def depthAll : List Filter → Nat
  | [] => 0
  | filter :: rest => max (depth filter) (depthAll rest)

end

/-! ### Written forms -/

/-- A comparison as a JSON object: the keys `name` and `op`, the value as `val`, also if it is
missing, and the other field as `field` if there is one. -/
def comparisonJson (c : Comparison) : Json :=
  .obj ((c.other.map fun other => ("field", Json.str other)).toList ++
    [("name", .str c.field), ("op", .str c.operator), ("val", c.argument.getD .null)])

mutual

/-- The canonical JSON form: a comparison as an object of up to four entries, a group as an object
with the list of its members. -/
def toJson : Filter → Json
  | leaf c => comparisonJson c
  | group kind members => .obj [(kind.key, .arr (toJsonAll members))]

/-- The canonical JSON forms of several filters. -/
def toJsonAll : List Filter → List Json
  | [] => []
  | filter :: rest => toJson filter :: toJsonAll rest

end

/-- The canonical JSON form of a list of filters. -/
def canonical (filters : List Filter) : Json := .arr (toJsonAll filters)

/-- A comparison for people. -/
def renderComparison (c : Comparison) : String :=
  let operand :=
    match c.other with
    | some other => other
    | none => (c.argument.getD .null).compact
  c.field ++ " " ++ c.operator ++ " " ++ operand

mutual

/-- A filter for people. -/
def render : Filter → String
  | leaf c => renderComparison c
  | group kind members => kind.title ++ "(" ++ String.intercalate ", " (renderAll members) ++ ")"

/-- Several filters for people. -/
def renderAll : List Filter → List String
  | [] => []
  | filter :: rest => render filter :: renderAll rest

end

/-! ### Fields -/

mutual

/-- Accepts a filter in which every comparison is about a declared field; the first that is not is
the fault. Fields that are compared with do not count here. -/
def checkFields (schema : Schema) : Filter → Except FilterFault Unit
  | leaf c => if schema.hasField c.field then .ok () else .error (.unknownField c.field)
  | group _ members => checkFieldsAll schema members

/-- Accepts filters in which every comparison is about a declared field. -/
def checkFieldsAll (schema : Schema) : List Filter → Except FilterFault Unit
  | [] => .ok ()
  | filter :: rest => do
    checkFields schema filter
    checkFieldsAll schema rest

end

end Filter

end LogSieve
