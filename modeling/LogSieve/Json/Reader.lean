import LogSieve.Json.Numeral
import LogSieve.Json.Quoted

/-!
# Reading JSON text

The strict grammar: blanks are space, tab, line feed and carriage return, keys and strings stand
between quotes, nothing follows the last item. Of several entries with one key the last one counts.
How many brackets may be open at once is a parameter.
-/

namespace LogSieve.Json

/-- Is the character a blank between tokens? -/
def isSpace (c : Char) : Bool := c = ' ' || c = '\n' || c = '\t' || c = '\r'

/-- The text without the blanks at its start. -/
def skipSpace (text : List Char) : List Char := text.dropWhile isSpace

/-- Reads the given characters. -/
def readWord : List Char → List Char → Reading SyntaxFault (List Char)
  | [], rest => .ok rest
  | _ :: _, [] => stopAt .endInValue []
  | c :: word, d :: rest => if c = d then readWord word rest else stopIn .expectedIdent (d :: rest)

/-- Reads the colon behind a key. -/
def readColon (text : List Char) : Reading SyntaxFault (List Char) :=
  match skipSpace text with
  | [] => stopAt .endInObject []
  | ':' :: rest => .ok rest
  | rest => stopIn .expectedColon rest

/-- What stands between two items of a list, or before the first one. -/
inductive Turn where
  /-- An item, which starts with the rest of the text. -/
  | item (rest : List Char)
  /-- The end; its bracket has not been taken yet. -/
  | finish (rest : List Char)

/-- Looks for the next item of a list. -/
def nextItem (first : Bool) (text : List Char) : Reading SyntaxFault Turn :=
  match skipSpace text with
  | [] => stopAt .endInList []
  | ']' :: rest => .ok (.finish (']' :: rest))
  | c :: rest =>
    if first then .ok (.item (c :: rest))
    else if c = ',' then
      match skipSpace rest with
      | [] => stopAt .endInValue []
      | ']' :: rest => stopIn .trailingComma (']' :: rest)
      | rest => .ok (.item rest)
    else stopIn .expectedCommaOrBracket (c :: rest)

/-- Looks for the next entry of an object. The quote of its key is still to be taken. -/
def nextEntry (first : Bool) (text : List Char) : Reading SyntaxFault Turn :=
  match skipSpace text with
  | [] => stopAt .endInObject []
  | '}' :: rest => .ok (.finish ('}' :: rest))
  | c :: rest =>
    if first then
      if c = '"' then .ok (.item (c :: rest)) else stopIn .keyNotString (c :: rest)
    else if c = ',' then
      match skipSpace rest with
      | [] => stopAt .endInValue []
      | '"' :: rest => .ok (.item ('"' :: rest))
      | '}' :: rest => stopIn .trailingComma ('}' :: rest)
      | rest => stopIn .keyNotString rest
    else stopIn .expectedCommaOrBrace (c :: rest)

mutual

/-- Reads a value; `depth` more brackets may be opened. An item and its value take at least one
character, so that one more than twice the number of characters suffices as `fuel`. -/
def readValue : Nat → Nat → List Char → Reading SyntaxFault (Json × List Char)
  | 0, _, _ => stopAt .endInValue []
  | fuel + 1, depth, text =>
    match skipSpace text with
    | [] => stopAt .endInValue []
    | c :: rest =>
      if c = 'n' then do
        return (null, ← readWord ['u', 'l', 'l'] rest)
      else if c = 't' then do
        return (bool true, ← readWord ['r', 'u', 'e'] rest)
      else if c = 'f' then do
        return (bool false, ← readWord ['a', 'l', 's', 'e'] rest)
      else if c = '"' then do
        let (s, rest) ← readQuoted rest
        return (str s, rest)
      else if c = '-' then do
        let (n, rest) ← readNumber true rest
        return (num n, rest)
      else if c.isDigit then do
        let (n, rest) ← readNumber false (c :: rest)
        return (num n, rest)
      else if c = '[' then
        if depth = 0 then stopIn .tooDeep (c :: rest)
        else readItems fuel (depth - 1) [] rest
      else if c = '{' then
        if depth = 0 then stopIn .tooDeep (c :: rest)
        else readEntries fuel (depth - 1) true [] rest
      else stopIn .expectedValue (c :: rest)

/-- Reads the items of a list up to its bracket; `taken` holds those already read, last first. -/
def readItems : Nat → Nat → List Json → List Char → Reading SyntaxFault (Json × List Char)
  | 0, _, _, _ => stopAt .endInList []
  | fuel + 1, depth, taken, text => do
    match ← nextItem taken.isEmpty text with
    | .finish rest => return (arr taken.reverse, rest.drop 1)
    | .item rest =>
      let (value, rest) ← readValue fuel depth rest
      readItems fuel depth (value :: taken) rest

/-- Reads the entries of an object up to its brace; `taken` holds those already read. -/
def readEntries : Nat → Nat → Bool → List (String × Json) → List Char →
    Reading SyntaxFault (Json × List Char)
  | 0, _, _, _, _ => stopAt .endInObject []
  | fuel + 1, depth, first, taken, text => do
    match ← nextEntry first text with
    | .finish rest => return (obj taken, rest.drop 1)
    | .item rest =>
      let (key, rest) ← readQuoted (rest.drop 1)
      let (value, rest) ← readValue fuel depth (← readColon rest)
      readEntries fuel depth false (Entries.put key value taken) rest

end

/-- Accepts the end of the text, behind blanks. -/
def readEnd (text : List Char) : Reading SyntaxFault Unit :=
  match skipSpace text with
  | [] => .ok ()
  | rest => stopIn .trailingCharacters rest

/-- How many brackets may be open at once. -/
def greatestDepth : Nat := 127

/-- Reads a text that holds one value, with at most `depth` open brackets. -/
def parseWithin (depth : Nat) (text : String) : Except (Located SyntaxFault) Json :=
  let chars := text.toList
  let reading : Reading SyntaxFault Json := do
    let (value, rest) ← readValue (2 * chars.length + 1) depth chars
    readEnd rest
    return value
  match reading with
  | .ok value => .ok value
  | .error stop => .error (stop.locate chars)

/-- Reads a text that holds one value. -/
def parse (text : String) : Except (Located SyntaxFault) Json := parseWithin greatestDepth text

end LogSieve.Json
