import LogSieve.Json.Basic

/-!
# Conditions on records

A condition sees a record only through its fields, so that it applies to records of any type.
-/

namespace LogSieve

/-- How a record answers when it is asked for the field of a name: none if it has no such field. -/
abbrev Fields := String → Option Json

/-- Records whose fields can be asked for by name. -/
class HasFields (R : Type) where
  /-- The value of a field; none if the record has no such field. -/
  field : R → Fields

/-- A test of records. -/
abbrev Condition := Fields → Bool

namespace Condition

/-- All of the conditions; holds if there are none. -/
def all (parts : List Condition) : Condition := fun fields => parts.all fun part => part fields

/-- Some of the conditions; does not hold if there are none. -/
def any (parts : List Condition) : Condition := fun fields => parts.any fun part => part fields

/-- The opposite condition. -/
def negate (condition : Condition) : Condition := fun fields => !condition fields

end Condition

end LogSieve
