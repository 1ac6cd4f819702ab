import LogSieve.Filter.Grammar
import LogSieve.Filter.Registry

/-!
# From filters to conditions

Compiling a filter checks its comparisons, from left to right, against a schema and a registry of
operators, and makes one condition of it. The first fault ends it.
-/

namespace LogSieve

/-- What filters are compiled with. -/
structure Compiler where
  /-- The fields that filters may be about. -/
  schema : Schema
  /-- The operators that they may use; the built-in ones unless others are given. -/
  registry : Registry := by exact .builtin
  /-- How deep filters may be nested when they are read from JSON. -/
  limit : Nat := Filter.defaultLimit

namespace Compiler

/-- The operand of a comparison, if it has one. One with a value and a field has one too many. -/
def operand (operator : Operator) (c : Comparison) : Except FilterFault (Option Operand) :=
  match c.argument, c.other with
  | some _, some _ =>
    .error (.wrongCount c.operator operator.arity.count (operator.arity.count + 1))
  | _, some other => .ok (some (.field other))
  | some value, none => .ok (some (.value value))
  | none, none => .ok none

/-- The condition that an operator makes of a field and an operand. Only an operator of arity 1 can
do without the operand. -/
def apply (operator : Operator) (c : Comparison) (field : Field) (operand : Option Operand) :
    Except FilterFault Condition :=
  match operator.build, operand with
  | .unary build, _ => build field
  | .binary build, some operand => build field operand
  | .ternary build, some operand => build field operand c.field
  | _, none => .error (.noOperand c.operator)

/-- The condition of a comparison. Its fields are checked first, its own before the other, then its
operator, then its operand. -/
def comparison (compiler : Compiler) (c : Comparison) : Except FilterFault Condition :=
  match compiler.schema.field? c.field with
  | none => .error (.unknownField c.field)
  | some field =>
    match c.other.filter (!compiler.schema.hasField ·) with
    | some other => .error (.unknownField other)
    | none => do
      let operator ← compiler.registry.lookup c.operator
      apply operator c field (← operand operator c)

/-- The condition of a group with the given conditions as members. A negation must have a
member. -/
def combine (kind : Connective) (parts : List Condition) : Except FilterFault Condition :=
  match kind with
  | .and => .ok (.all parts)
  | .or => .ok (.any parts)
  | .not =>
    if parts.isEmpty then .error (.malformed .emptyNegation)
    else .ok (Condition.all parts).negate

mutual

/-- The condition of a filter. -/
def compile (compiler : Compiler) : Filter → Except FilterFault Condition
  | .leaf c => compiler.comparison c
  | .group kind members => do combine kind (← compileAll compiler members)

/-- The conditions of several filters. -/
def compileAll (compiler : Compiler) : List Filter → Except FilterFault (List Condition)
  | [] => .ok []
  | filter :: rest => do
    let condition ← compile compiler filter
    return condition :: (← compileAll compiler rest)

end

/-- The filter that JSON stands for, all of whose comparisons are about declared fields. -/
def readFilter (compiler : Compiler) (raw : Json) : Except FilterFault Filter := do
  let filters ← Filter.read compiler.limit raw
  Filter.checkFieldsAll compiler.schema filters
  return .ofList filters

/-- The condition that JSON stands for. -/
def compileJson (compiler : Compiler) (raw : Json) : Except FilterFault Condition := do
  compiler.compile (← compiler.readFilter raw)

end Compiler

end LogSieve
