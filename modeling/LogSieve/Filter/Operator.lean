import LogSieve.Filter.Condition
import LogSieve.Filter.Fault
import LogSieve.Filter.TextTest
import LogSieve.Json.Order
import LogSieve.Schema
import LogSieve.Text.Escaped

/-!
# Operators

An operator turns a field and its operands into a condition. Operators take one, two or three
operands, the field included. The built-in ones test equality, patterns and membership, and all of
them take two.
-/

namespace LogSieve

/-! ### Operands -/

/-- What a field is compared with. -/
inductive Operand where
  /-- A value. -/
  | value (value : Json)
  /-- Another field of the same record. -/
  | field (name : String)

/-- The value of an operand for a record. -/
def Operand.resolve (operand : Operand) (fields : Fields) : Option Json :=
  match operand with
  | .value v => some v
  | .field name => fields name

/-- How many operands an operator takes. -/
inductive Arity where
  /-- The field alone. -/
  | unary
  /-- The field and what it is compared with. -/
  | binary
  /-- The field, what it is compared with, and the name of the field. -/
  | ternary
deriving DecidableEq

/-- The number of operands. -/
def Arity.count : Arity → Nat
  | unary => 1
  | binary => 2
  | ternary => 3

/-- The arity in words. -/
def Arity.name : Arity → String
  | unary => "Unary"
  | binary => "Binary"
  | ternary => "Ternary"

/-- How an operator makes a condition of its operands. -/
inductive Build where
  /-- From a field. -/
  | unary (build : Field → Except FilterFault Condition)
  /-- From a field and an operand. -/
  | binary (build : Field → Operand → Except FilterFault Condition)
  /-- From a field, an operand and the name of the field. -/
  | ternary (build : Field → Operand → String → Except FilterFault Condition)

/-- The number of operands that are used. -/
def Build.arity : Build → Arity
  | unary _ => .unary
  | binary _ => .binary
  | ternary _ => .ternary

/-- An operator. -/
structure Operator where
  /-- Its own name; it may have others. -/
  name : String
  /-- How many operands it takes. -/
  arity : Arity
  /-- How it makes a condition. -/
  build : Build

/-- The name and the arity of an operator, for people. -/
def Operator.render (operator : Operator) : String :=
  "OperatorSpec \x7b name: " ++ Text.escaped operator.name ++ ", arity: " ++
    operator.arity.name ++ " \x7d"

namespace Operator

/-! ### Equality and membership -/

/-- The field is equal to the operand. -/
def equal (field : Field) (operand : Operand) : Except FilterFault Condition :=
  .ok fun fields =>
    match fields field.name, operand.resolve fields with
    | some a, some b => Json.valuesEqual a b
    | _, _ => false

/-- The field is equal to a member of a list, which must be given as a value. -/
def member (field : Field) : Operand → Except FilterFault Condition
  | .value (.arr members) =>
    .ok fun fields =>
      match fields field.name with
      | some value => members.any fun m => Json.valuesEqual value m
      | none => false
  | .value value => .error (.badOperand "in" (.notList value.compact))
  | .field name => .error (.badOperand "in" (.listFromField name))

/-! ### Patterns -/

/-- The text of a field. -/
def fieldText (fields : Fields) (name : String) : Option String :=
  (fields name).bind Json.asText

/-- The text of the field passes the test that `test?` makes of the operand's text. A value gives
one test for all records, and `null` counts as the empty pattern; a field gives a test for each
record, and a record for which there is none does not match. -/
def textual (name : String) (test? : String → Option TextTest) (field : Field) :
    Operand → Except FilterFault Condition
  | .value (.arr _) => .error (.badOperand name .notPattern)
  | .value (.obj _) => .error (.badOperand name .notPattern)
  | .value value =>
    match test? (value.asText.getD "") with
    | none => .error (.badOperand name (.patternTooLarge RegexEngine.sizeLimit))
    | some test => .ok fun fields => (fieldText fields field.name).any test.accepts
  | .field other =>
    .ok fun fields =>
      match fieldText fields field.name, fieldText fields other with
      | some text, some pattern => (test? pattern).any (·.accepts text)
      | _, _ => false

section

variable [RegexEngine]

/-- The text of the field fits a pattern. -/
def like : Field → Operand → Except FilterFault Condition := textual "like" TextTest.like?

/-- The text of the field fits or contains a pattern, where case does not count. -/
def ilike : Field → Operand → Except FilterFault Condition := textual "ilike" TextTest.ilike?

end

/-! ### Complements -/

/-- The operator that holds where the given one does not. -/
def complement (build : Field → Operand → Except FilterFault Condition) (field : Field)
    (operand : Operand) : Except FilterFault Condition :=
  (build field operand).map Condition.negate

/-- The text of the field does not fit a pattern. -/
def notLike [RegexEngine] : Field → Operand → Except FilterFault Condition := complement like

/-- The field is equal to no member of a list. -/
def notMember : Field → Operand → Except FilterFault Condition := complement member

end Operator

end LogSieve
