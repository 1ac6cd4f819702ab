import LogSieve.Filter.Basic
import LogSieve.Text.Case

/-!
# Filters written in JSON

The grammar that clients use. An object with one entry is a group, as in
`{"OR": [filter, filter]}`, or an operator with its operand, as in `{"IS": {"browser": "Chrome"}}`;
these keys may be in either case. An object with a `name` or an `op` is a comparison in its
canonical form. `Filter.read` reads one filter or a list of them and bounds how deep they are
nested.
-/

namespace LogSieve.Filter

/-- The nesting that is accepted if nothing else is said. -/
def defaultLimit : Nat := 64

/-- The operators that have a key of their own, in lower case. -/
def operatorKeys : List String :=
  ["is", "contains", "eq", "ilike", "like", "contain", "in", "not_in", "not_like", "equals"]

/-- The keys of a comparison in its canonical form. -/
def comparisonKeys : List String := ["name", "op", "val", "field"]

/-- A fault of the form. -/
def malformed {α : Type} (fault : FormFault) : Except FilterFault α := .error (.malformed fault)

/-- The value unless it is `null`. -/
def nonNull (value : Json) : Option Json := if value.isNull then none else some value

/-! ### Comparisons -/

/-- Is the object a comparison in its canonical form? -/
def isComparison (entries : List (String × Json)) : Bool :=
  entries.any fun entry => entry.1 == "name" || entry.1 == "op"

/-- The text that an entry of a comparison must hold. -/
def requiredText (key : String) (entries : List (String × Json)) : Except FilterFault String :=
  match Entries.lookup key entries with
  | some (.str text) => .ok text
  | some value => malformed (.notText key value.kind)
  | none => malformed (.missingKey key)

/-- The other field of a comparison, if one is given. -/
def otherField (entries : List (String × Json)) : Except FilterFault (Option String) :=
  match Entries.lookup "field" entries with
  | none => .ok none
  | some .null => .ok none
  | some (.str name) => .ok (some name)
  | some value => malformed (.notFieldName value.kind)

/-- Reads a comparison in its canonical form. -/
def readComparison (entries : List (String × Json)) : Except FilterFault Filter :=
  match entries.find? fun entry => !comparisonKeys.contains entry.1 with
  | some entry => malformed (.extraKey entry.1)
  | none => do
    let field ← requiredText "name" entries
    let operator ← requiredText "op" entries
    let argument := (Entries.lookup "val" entries).bind nonNull
    let other ← otherField entries
    return leaf { field, operator := Text.asciiLower operator, argument, other }

/-- Reads the operand of an operator: an object that binds one field to a value. -/
def readOperand (key : String) : Json → Except FilterFault Filter
  | .obj [(field, value)] =>
    .ok (leaf { field, operator := Text.asciiLower key, argument := nonNull value })
  | .obj entries => malformed (.notOneField key entries.length)
  | value => malformed (.notOperand key value.kind)

/-! ### Filters -/

mutual

/-- Reads a filter that stands at `level`; levels beyond `limit` are refused. -/
def readAt (limit level : Nat) : Json → Except FilterFault Filter
  | .obj entries =>
    if limit < level then malformed (.tooDeep limit)
    else if isComparison entries then readComparison entries
    else readNode limit level entries
  | value =>
    if limit < level then malformed (.tooDeep limit) else malformed (.notObject value.kind)

/-- Reads a group or an operator with its operand. The single member of a negation need not be
listed. -/
def readNode (limit level : Nat) : List (String × Json) → Except FilterFault Filter
  | [] => malformed .emptyObject
  | [(key, value)] =>
    match Connective.ofKey? (Text.asciiLower key) with
    | some kind =>
      match value with
      | .arr items => do return group kind (← readAll limit (level + 1) items)
      | value => do
        if kind = .not then return group .not [← readAt limit (level + 1) value]
        else malformed (.notList key value.kind)
    | none =>
      if operatorKeys.contains (Text.asciiLower key) then readOperand key value
      else malformed (.unknownKey key)
  | entries => malformed (.severalKeys (entries.map (·.1)))

/-- Reads filters that stand at `level`. -/
def readAll (limit level : Nat) : List Json → Except FilterFault (List Filter)
  | [] => .ok []
  | item :: rest => do
    let filter ← readAt limit level item
    return filter :: (← readAll limit level rest)

end

/-- Reads a filter, or a list of filters all of which must hold. -/
def read (limit : Nat) : Json → Except FilterFault (List Filter)
  | .arr items => readAll limit 1 items
  | value => do return [← readAt limit 1 value]

end LogSieve.Filter
