import LogSieve.Toml.Scalar

/-!
# TOML documents

A document is a list of statements, one a line: a header opens a table, and an entry binds a key to
a value in the table that was opened last. A document is read or refused as a whole.
-/

namespace LogSieve.Toml

/-! ### Keys -/

/-- May the character stand in a key without quotes? -/
def isKeyChar (c : Char) : Bool := c.isAlphanum || c = '-' || c = '_'

/-- Reads a key without dots. -/
def readSimpleKey (text : List Char) : Option (String × List Char) :=
  match readLineText text with
  | some result => some result
  | none =>
    let key := text.takeWhile isKeyChar
    if key.isEmpty then none else some (String.ofList key, text.dropWhile isKeyChar)

/-- Reads a key with the parts between its dots, and blanks around them. Every
part takes a character, so that the text itself serves as `fuel`. -/
def readKeyParts : List Char → List Char → Option (List String × List Char)
  | [], _ => none
  | _ :: fuel, text => do
    let (key, rest) ← readSimpleKey (skipBlanks text)
    match skipBlanks rest with
    | '.' :: rest =>
      let (keys, rest) ← readKeyParts fuel rest
      return (key :: keys, rest)
    | rest => return ([key], rest)

/-- How many brackets may be open at once, and how many parts a key may have. -/
def greatestDepth : Nat := 79

/-- A key: the parts that lead to a table, and the last one. -/
structure Key where
  /-- The parts before the last one. -/
  path : List String
  /-- The last part. -/
  last : String

/-- All parts of a key. -/
def Key.parts (key : Key) : List String := key.path ++ [key.last]

/-- Reads a key. -/
def readKey (text : List Char) : Option (Key × List Char) := do
  let (parts, rest) ← readKeyParts text text
  if parts.length ≤ greatestDepth then return (⟨parts.dropLast, ← parts.getLast?⟩, rest) else none

/-! ### Values -/

/-- Reads a key and the equals sign behind it. -/
def readBinding (text : List Char) : Option (Key × List Char) := do
  let (key, rest) ← readKey text
  return (key, skipBlanks (← readMark '=' rest))

/-- The text behind a comment, if it starts with one. -/
def skipComment (text : List Char) : List Char :=
  match text with
  | '#' :: rest => rest.dropWhile isTextChar
  | _ => text

/-- The text behind blanks, line ends and comments. A comment must end with its line. The text
itself serves as `fuel`. -/
def skipGap : List Char → List Char → List Char
  | [], text => text
  | _ :: fuel, text =>
    match lineEnd? (skipComment (skipBlanks text)) with
    | some rest => skipGap fuel rest
    | none => skipBlanks text

/-- The text behind blanks, line ends and comments. -/
def skip (text : List Char) : List Char := skipGap text text

mutual

/-- Reads a value; `depth` more brackets may be opened. One more than twice the number of characters
suffices as `fuel`. -/
def readValue : Nat → Nat → List Char → Option (Toml × List Char)
  | 0, _, _ => none
  | fuel + 1, depth, text =>
    match text with
    | '[' :: rest => if depth = 0 then none else readItems fuel (depth - 1) [] rest
    | '{' :: rest =>
      if depth = 0 then none
      else
        match skipBlanks rest with
        | '}' :: rest => some (table .braces [], rest)
        | rest => readEntries fuel (depth - 1) [] rest
    | _ => readScalar text

/-- Reads the items of an array up to its bracket; `taken` holds those already read, last first. -/
def readItems : Nat → Nat → List Toml → List Char → Option (Toml × List Char)
  | 0, _, _, _ => none
  | fuel + 1, depth, taken, text => do
    match skip text with
    | ']' :: rest => return (array taken.reverse, rest)
    | text =>
      let (value, rest) ← readValue fuel depth text
      match skip rest with
      | ',' :: rest => readItems fuel depth (value :: taken) rest
      | ']' :: rest => return (array (value :: taken).reverse, rest)
      | _ => none

/-- Reads the entries of a table up to its brace; `taken` holds those already read. -/
def readEntries : Nat → Nat → Table → List Char → Option (Toml × List Char)
  | 0, _, _, _ => none
  | fuel + 1, depth, taken, text => do
    let (key, rest) ← readBinding text
    let (value, rest) ← readValue fuel depth rest
    let taken ← addAt key.path key.last value taken
    match skipBlanks rest with
    | ',' :: rest => readEntries fuel depth taken rest
    | '}' :: rest => return (table .braces taken, rest)
    | _ => none

end

/-! ### Statements -/

/-- A line of a document. -/
inductive Statement where
  /-- A header that opens a table. -/
  | header (key : Key)
  /-- A header that opens one more table under a key. -/
  | repeatedHeader (key : Key)
  /-- An entry. -/
  | entry (key : Key) (value : Toml)

/-- Reads a statement, with the `fuel` of `readValue`. -/
def readStatement (fuel : Nat) (text : List Char) : Option (Statement × List Char) :=
  match text with
  | '[' :: '[' :: rest => do
    let (key, rest) ← readKey rest
    return (.repeatedHeader key, ← readMark ']' (← readMark ']' rest))
  | '[' :: rest => do
    let (key, rest) ← readKey rest
    return (.header key, ← readMark ']' rest)
  | _ => do
    let (key, rest) ← readBinding text
    let (value, rest) ← readValue fuel greatestDepth rest
    return (.entry key value, rest)

/-- Reads the statements of a document. Only blanks and a comment may follow a statement on its
line. One more than twice the number of characters suffices as `fuel`. -/
def readStatements : Nat → List Char → Option (List Statement)
  | 0, _ => none
  | fuel + 1, text => do
    let text := skipBlanks text
    match skipComment text with
    | [] => return []
    | rest =>
      match lineEnd? rest with
      | some rest => readStatements fuel rest
      | none =>
        let (statement, rest) ← readStatement fuel text
        match skipComment (skipBlanks rest) with
        | [] => return [statement]
        | rest => return statement :: (← readStatements fuel (← lineEnd? rest))

/-! ### Documents -/

/-- A document so far. -/
structure Draft where
  /-- The table of the whole document. -/
  root : Table
  /-- The keys that lead to the table that was opened last. -/
  current : List String

/-- The document with one more statement, unless the statement contradicts it. -/
def Draft.add (draft : Draft) : Statement → Option Draft
  | .header key => do
    return ⟨← changeAt (openTable key.last) key.path draft.root, key.parts⟩
  | .repeatedHeader key => do
    return ⟨← changeAt (openRepeated key.last) key.path draft.root, key.parts⟩
  | .entry key value => do
    return { draft with
      root := ← changeAt (addAt key.path key.last value) draft.current draft.root }

/-- The table of a document; a byte order mark at its start does not count. -/
def parse? (text : String) : Option Table := do
  let chars :=
    match text.toList with
    | '\uFEFF' :: rest => rest
    | chars => chars
  let statements ← readStatements (2 * chars.length + 1) chars
  let draft ← statements.foldlM Draft.add ⟨[], []⟩
  return draft.root

end LogSieve.Toml
