import LogSieve.Entries
import LogSieve.Filter.Operator

/-!
# Registries of operators

Which operator a name stands for. Operators are kept in the order in which they were registered,
and each name points to the place of its operator, so that several names may share one. A name that
is registered again points to the new operator from then on.
-/

namespace LogSieve

/-- A registry of operators. -/
structure Registry where
  /-- The operators, in order of registration. -/
  operators : List Operator
  /-- The names in ascending order, each with the place of its operator. -/
  table : List (String × Nat)

namespace Registry

/-- The registry without operators. -/
def empty : Registry := ⟨[], []⟩

instance : Inhabited Registry := ⟨empty⟩

/-- The registry with one more operator under the given names. Without a name nothing is
registered. -/
def register (registry : Registry) (names : List String) (build : Build) : Registry :=
  match names with
  | [] => registry
  | name :: _ =>
    { operators := registry.operators ++ [⟨name, build.arity, build⟩]
      table :=
        names.foldl (fun table name => Entries.put name registry.operators.length table)
          registry.table }

/-- The built-in operators. -/
def builtin [RegexEngine] : Registry :=
  (((((empty.register ["eq", "is", "equals"] (.binary Operator.equal)).register
    ["contains", "contain", "ilike"] (.binary Operator.ilike)).register
    ["like"] (.binary Operator.like)).register
    ["not_like"] (.binary Operator.notLike)).register
    ["in"] (.binary Operator.member)).register
    ["not_in"] (.binary Operator.notMember)

/-- The operator of a name; the ASCII letters of the name may be in either case. -/
def lookup (registry : Registry) (name : String) : Except FilterFault Operator :=
  match (Entries.lookup (Text.asciiLower name) registry.table).bind (registry.operators[·]?) with
  | some operator => .ok operator
  | none => .error (.unknownOperator name)

/-- All names, ascending. -/
def names (registry : Registry) : List String := registry.table.map (·.1)

end Registry

end LogSieve
