import LogSieve.Json.Basic
import LogSieve.Json.Fault

/-!
# Why a filter is rejected

The faults of filters and of queries that hold them, and what a client is told about each.
-/

namespace LogSieve

/-- Why a value is no filter. -/
inductive FormFault where
  /-- It is nested deeper than the limit. -/
  | tooDeep (limit : Nat)
  /-- A filter is no object. -/
  | notObject (found : Json.Kind)
  /-- An object without entries. -/
  | emptyObject
  /-- An object with several entries. -/
  | severalKeys (keys : List String)
  /-- The members of a group are not listed. -/
  | notList (key : String) (found : Json.Kind)
  /-- The operand of an operator is no object. -/
  | notOperand (key : String) (found : Json.Kind)
  /-- The operand of an operator names no field, or several. -/
  | notOneField (key : String) (count : Nat)
  /-- A key that is neither a group nor an operator. -/
  | unknownKey (key : String)
  /-- A comparison has an entry that it should not have. -/
  | extraKey (key : String)
  /-- An entry of a comparison is no text. -/
  | notText (key : String) (found : Json.Kind)
  /-- An entry of a comparison is missing. -/
  | missingKey (key : String)
  /-- The other field of a comparison is no name. -/
  | notFieldName (found : Json.Kind)
  /-- A negation of nothing. -/
  | emptyNegation
  /-- The query is not JSON text. -/
  | notJson (fault : Json.Located Json.SyntaxFault)
deriving DecidableEq

/-- The fault in words. -/
def FormFault.message : FormFault → String
  | tooDeep limit => "expression nested deeper than " ++ toString limit ++ " levels"
  | notObject found => "expected a filter object, got " ++ found.words
  | emptyObject => "empty filter object"
  | severalKeys keys =>
    "filter object has several keys (" ++ String.intercalate ", " keys ++
      "); combine them with AND"
  | notList key found => "'" ++ key ++ "' expects a list of filters, got " ++ found.words
  | notOperand key found =>
    "'" ++ key ++ "' expects a \x7bfield: value\x7d object, got " ++ found.words
  | notOneField key count => "'" ++ key ++ "' expects exactly one field, got " ++ toString count
  | unknownKey key => "unknown key '" ++ key ++ "'"
  | extraKey key => "unexpected key '" ++ key ++ "' in filter leaf"
  | notText key found => "'" ++ key ++ "' must be a string, got " ++ found.words
  | missingKey key => "filter leaf is missing '" ++ key ++ "'"
  | notFieldName found => "'field' must be a field name, got " ++ found.words
  | emptyNegation => "NOT needs at least one filter"
  | notJson fault =>
    "query is not valid JSON: " ++ fault.message Json.SyntaxFault.message

/-- Why an operator does not take an operand. -/
inductive OperandFault where
  /-- Membership is asked in a value that is no list; its text is given. -/
  | notList (text : String)
  /-- Membership is asked in a field. -/
  | listFromField (field : String)
  /-- A list or an object stands where a text pattern is needed. -/
  | notPattern
  /-- The pattern takes more memory than the limit, in bytes. -/
  | patternTooLarge (limit : Nat)
  /-- A reason given by an operator that is not built in. -/
  | refused (reason : String)
deriving DecidableEq

/-- The fault in words. -/
def OperandFault.message : OperandFault → String
  | notList text => "expected a list, got " ++ text
  | listFromField field => "cannot test membership against field '" ++ field ++ "'"
  | notPattern => "expected a text pattern"
  | patternTooLarge limit =>
    "Compiled regex exceeds size limit of " ++ toString limit ++ " bytes."
  | refused reason => reason

/-- Why a filter is rejected. -/
inductive FilterFault where
  /-- No record has such a field. -/
  | unknownField (name : String)
  /-- No operator has this name. -/
  | unknownOperator (name : String)
  /-- A comparison gives another number of operands than its operator takes. -/
  | wrongCount (operator : String) (expected given : Nat)
  /-- A comparison has no operand. -/
  | noOperand (operator : String)
  /-- The filter is not formed as one. -/
  | malformed (fault : FormFault)
  /-- The operator does not take this operand. -/
  | badOperand (operator : String) (fault : OperandFault)
deriving DecidableEq

namespace FilterFault

/-- The fault in words. -/
def message : FilterFault → String
  | unknownField name => "Unknown field: '" ++ name ++ "'"
  | unknownOperator name => "Unknown operator: '" ++ name ++ "'"
  | wrongCount operator expected given =>
    "Operator '" ++ operator ++ "' takes " ++ toString expected ++ " operand(s), got " ++
      toString given
  | noOperand operator => "Cannot compare to null with operator '" ++ operator ++ "'"
  | malformed fault => "Malformed filter expression: " ++ fault.message
  | badOperand operator fault =>
    "Invalid argument for operator '" ++ operator ++ "': " ++ fault.message

/-- The field that the fault is about. -/
def field? : FilterFault → Option String
  | unknownField name => some name
  | _ => none

/-- What a client is told whose request held the filter. -/
def details (fault : FilterFault) : String :=
  match fault.field? with
  | some name => "Invalid filter object: No such field \"" ++ name ++ "\""
  | none => "Unable to construct query: " ++ fault.message

/-- The status of the answer to such a request: every fault of a filter is the client's. -/
def status (_ : FilterFault) : Nat := 400

end FilterFault

end LogSieve
