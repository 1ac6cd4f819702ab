import LogSieve.Json.Printer

/-!
# Comparing values

Three ways to compare two values. `compareValues` is the order of two scalars of one kind,
`compareForSort` an order of all values, missing ones included, and `valuesEqual` the equality of
the filter operators. Numbers are compared as doubles in all three.
-/

namespace LogSieve.Json

/-- Are two numbers written alike: both as integers or both as doubles, with the same value? -/
def sameNumber : Number → Number → Bool
  | .int m, .int n => m == n
  | .double x, .double y => x.sameValue y
  | _, _ => false

mutual

/-- Have two values the same structure? -/
def same : Json → Json → Bool
  | null, null => true
  | bool a, bool b => a == b
  | num m, num n => sameNumber m n
  | str s, str t => s == t
  | arr items, arr items' => sameItems items items'
  | obj entries, obj entries' => sameEntries entries entries'
  | _, _ => false

/-- Have two lists the same items? -/
def sameItems : List Json → List Json → Bool
  | [], [] => true
  | item :: rest, item' :: rest' => same item item' && sameItems rest rest'
  | _, _ => false

/-- Have two objects the same entries? -/
def sameEntries : List (String × Json) → List (String × Json) → Bool
  | [], [] => true
  | (key, value) :: rest, (key', value') :: rest' =>
    key == key' && same value value' && sameEntries rest rest'
  | _, _ => false

end

/-- The order of two numbers by value, of two texts by code points, or of two truth values with
`false` first. Other pairs are not comparable. -/
def compareValues : Json → Json → Option Ordering
  | num m, num n => some (m.toDouble.compareValue n.toDouble)
  | str s, str t => some (compare s t)
  | bool a, bool b => some (compare a b)
  | _, _ => none

/-- Equality as the filter operators mean it: numbers are equal when they have the same value, and
`null` equals nothing, not even `null`. -/
def valuesEqual : Json → Json → Bool
  | null, _ => false
  | _, null => false
  | num m, num n => m.toDouble.compareValue n.toDouble == .eq
  | a, b => same a b

/-- The order of two values of one kind: lists and objects compare by their text. -/
def compareSameKind : Json → Json → Ordering
  | num m, num n => m.toDouble.compareTotal n.toDouble
  | str s, str t => compare s t
  | bool a, bool b => compare a b
  | a, b => compare (compact a) (compact b)

/-- The sorting order of two values: by kind, then within the kind. -/
def comparePresent (a b : Json) : Ordering :=
  (compare a.kind.rank b.kind.rank).then (compareSameKind a b)

/-- The sorting order of values that may be missing: missing values and `null` come first. -/
def compareForSort (a b : Option Json) : Ordering :=
  match a.filter (!·.isNull), b.filter (!·.isNull) with
  | none, none => .eq
  | none, some _ => .lt
  | some _, none => .gt
  | some a, some b => comparePresent a b

/-- The text that patterns are matched against; `null` has none. -/
def asText : Json → Option String
  | null => none
  | str s => some s
  | value => some (compact value)

end LogSieve.Json
