import LogSieve.Entries
import LogSieve.Number.Decimal

/-!
# JSON values

Values of JSON text. Integers and doubles are kept apart, and the entries of an object are kept in
ascending order of their keys, one entry a key.
-/

namespace LogSieve

/-- A JSON number. -/
inductive Number where
  /-- An integer. -/
  | int (n : Int)
  /-- A number written with a fraction or an exponent, or an integer that is out of range. -/
  | double (x : Double)
deriving DecidableEq

/-- The double that a number is compared as. -/
def Number.toDouble : Number → Double
  | .int n => Double.ofInt n
  | .double x => x

/-- The decimal text of a number. -/
def Number.render : Number → String
  | .int n => toString n
  | .double x => x.render

/-- A JSON value. -/
inductive Json where
  /-- `null`. -/
  | null
  /-- `true` or `false`. -/
  | bool (value : Bool)
  /-- A number. -/
  | num (value : Number)
  /-- A string. -/
  | str (value : String)
  /-- A list. -/
  | arr (items : List Json)
  /-- An object, its entries ascending by key. -/
  | obj (entries : List (String × Json))

namespace Json

instance : Inhabited Json := ⟨null⟩

/-- The object with the given entries; of several with one key the last one counts. -/
def ofEntries (entries : List (String × Json)) : Json := obj (Entries.ofList entries)

/-- An integer. -/
def int (n : Int) : Json := num (.int n)

/-- Is the value `null`? -/
def isNull : Json → Bool
  | null => true
  | _ => false

/-- The kinds of values. -/
inductive Kind where
  /-- `null`. -/
  | null
  /-- Truth values. -/
  | boolean
  /-- Numbers. -/
  | number
  /-- Strings. -/
  | string
  /-- Lists. -/
  | list
  /-- Objects. -/
  | object
deriving DecidableEq

/-- The kind in words, as of a value of that kind. -/
def Kind.words : Kind → String
  | null => "null"
  | boolean => "a boolean"
  | number => "a number"
  | string => "a string"
  | list => "a list"
  | object => "an object"

/-- The place of a kind in the sorting order. -/
def Kind.rank : Kind → Nat
  | null => 0
  | boolean => 1
  | number => 2
  | string => 3
  | list => 4
  | object => 5

/-- The kind of a value. -/
def kind : Json → Kind
  | null => .null
  | bool _ => .boolean
  | num _ => .number
  | str _ => .string
  | arr _ => .list
  | obj _ => .object

end Json

end LogSieve
