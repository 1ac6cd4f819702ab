import LogSieve.Json.Quoted

/-!
# JSON text of values

Two layouts: `compact` without any blank, and `pretty` with one item or entry a line, indented by
two blanks a level.
-/

namespace LogSieve.Json

mutual

/-- The text of a value without blanks. -/
def compactChars : Json → List Char
  | null => ['n', 'u', 'l', 'l']
  | bool true => ['t', 'r', 'u', 'e']
  | bool false => ['f', 'a', 'l', 's', 'e']
  | num n => n.render.toList
  | str s => quote s
  | arr items => '[' :: (compactItems items ++ [']'])
  | obj entries => '{' :: (compactEntries entries ++ ['}'])

/-- The items of a list, with commas between them. -/
def compactItems : List Json → List Char
  | [] => []
  | [item] => compactChars item
  | item :: next :: rest => compactChars item ++ ',' :: compactItems (next :: rest)

/-- The entries of an object, with commas between them. -/
def compactEntries : List (String × Json) → List Char
  | [] => []
  | [(key, value)] => quote key ++ ':' :: compactChars value
  | (key, value) :: next :: rest =>
    quote key ++ ':' :: (compactChars value ++ ',' :: compactEntries (next :: rest))

end

/-- The text of a value without blanks. -/
def compact (value : Json) : String := String.ofList (compactChars value)

/-- A line feed and the indentation of a level. -/
def newline (level : Nat) : List Char := '\n' :: List.replicate (2 * level) ' '

mutual

/-- The text of a value whose first line stands at `level`. -/
def prettyChars (level : Nat) : Json → List Char
  | arr [] => ['[', ']']
  | arr (item :: rest) =>
    '[' :: (prettyItems (level + 1) (item :: rest) ++ (newline level ++ [']']))
  | obj [] => ['{', '}']
  | obj (entry :: rest) =>
    '{' :: (prettyEntries (level + 1) (entry :: rest) ++ (newline level ++ ['}']))
  | null => ['n', 'u', 'l', 'l']
  | bool true => ['t', 'r', 'u', 'e']
  | bool false => ['f', 'a', 'l', 's', 'e']
  | num n => n.render.toList
  | str s => quote s

/-- The items of a list, each on a line of its own. -/
def prettyItems (level : Nat) : List Json → List Char
  | [] => []
  | [item] => newline level ++ prettyChars level item
  | item :: next :: rest =>
    newline level ++ (prettyChars level item ++ ',' :: prettyItems level (next :: rest))

/-- The entries of an object, each on a line of its own. -/
def prettyEntries (level : Nat) : List (String × Json) → List Char
  | [] => []
  | [(key, value)] => newline level ++ (quote key ++ ':' :: ' ' :: prettyChars level value)
  | (key, value) :: next :: rest =>
    newline level ++ (quote key ++ ':' :: ' ' :: (prettyChars level value ++
      ',' :: prettyEntries level (next :: rest)))

end

/-- The text of a value with one item or entry a line. -/
def pretty (value : Json) : String := String.ofList (prettyChars 0 value)

end LogSieve.Json
