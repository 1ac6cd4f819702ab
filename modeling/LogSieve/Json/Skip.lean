import LogSieve.Json.Reader

/-!
# Passing over values

A value that nobody asks for is passed over and not built. Its shape is checked, with three
freedoms that building it would not leave: brackets are nested without limit, numbers may be of any
size, and an escape may stand for half a surrogate pair.
-/

namespace LogSieve.Json

/-- Passes over what follows a backslash. -/
def skipEscape (text : List Char) : Reading SyntaxFault (List Char) :=
  match text with
  | [] => stopAt .endInString []
  | 'u' :: rest => do return (← readHex4 rest).2
  | c :: rest => if (shortEscape? c).isSome then .ok rest else stopIn .invalidEscape text

/-- Passes over the characters up to the closing quote. Every step takes a character, so that the
text itself serves as `fuel`. -/
def skipQuotedWithin : List Char → List Char → Reading SyntaxFault (List Char)
  | [], _ => stopAt .endInString []
  | _, [] => stopAt .endInString []
  | _ :: fuel, c :: rest =>
    if c = '"' then .ok rest
    else if c = '\\' then do skipQuotedWithin fuel (← skipEscape rest)
    else if c.toNat < 0x20 then stopAt .controlCharacter (c :: rest)
    else skipQuotedWithin fuel rest

/-- Passes over the text that follows an opening quote. -/
def skipQuoted (text : List Char) : Reading SyntaxFault (List Char) :=
  skipQuotedWithin text text

/-- Passes over what follows the `e` of an exponent. -/
def skipExponent (text : List Char) : Reading SyntaxFault (List Char) :=
  let text :=
    match text with
    | '+' :: rest => rest
    | '-' :: rest => rest
    | _ => text
  match text with
  | [] => stopAt .invalidNumber []
  | c :: rest =>
    if c.isDigit then .ok (rest.dropWhile Char.isDigit) else stopIn .invalidNumber (c :: rest)

/-- Passes over an exponent, if one follows. -/
def skipExponent? (text : List Char) : Reading SyntaxFault (List Char) :=
  match text with
  | 'e' :: rest => skipExponent rest
  | 'E' :: rest => skipExponent rest
  | _ => .ok text

/-- Passes over a numeral, behind its minus sign if it has one. -/
def skipNumber (text : List Char) : Reading SyntaxFault (List Char) :=
  match text.takeWhile Char.isDigit with
  | [] => if text.isEmpty then stopAt .invalidNumber [] else stopIn .invalidNumber text
  | '0' :: _ :: _ => stopIn .invalidNumber (text.drop 1)
  | _ =>
    match text.dropWhile Char.isDigit with
    | '.' :: rest =>
      if (rest.takeWhile Char.isDigit).isEmpty then stopIn .invalidNumber rest
      else skipExponent? (rest.dropWhile Char.isDigit)
    | rest => skipExponent? rest

/-- Passes over a key and its colon. -/
def skipKey (text : List Char) : Reading SyntaxFault (List Char) :=
  match skipSpace text with
  | [] => stopAt .endInObject []
  | '"' :: rest => do readColon (← skipQuoted rest)
  | rest => stopIn .keyNotString rest

mutual

/-- Passes over a value. One more than twice the number of characters suffices as `fuel`. -/
def skipValue : Nat → List Char → Reading SyntaxFault (List Char)
  | 0, _ => stopAt .endInValue []
  | fuel + 1, text =>
    match skipSpace text with
    | [] => stopAt .endInValue []
    | c :: rest =>
      if c = 'n' then readWord ['u', 'l', 'l'] rest
      else if c = 't' then readWord ['r', 'u', 'e'] rest
      else if c = 'f' then readWord ['a', 'l', 's', 'e'] rest
      else if c = '"' then skipQuoted rest
      else if c = '-' then skipNumber rest
      else if c.isDigit then skipNumber (c :: rest)
      else if c = '[' then skipItems fuel true rest
      else if c = '{' then skipEntries fuel true rest
      else stopIn .expectedValue (c :: rest)

/-- Passes over the items of a list and its bracket. -/
def skipItems : Nat → Bool → List Char → Reading SyntaxFault (List Char)
  | 0, _, _ => stopAt .endInList []
  | fuel + 1, first, text =>
    match skipSpace text with
    | [] => stopAt .endInList []
    | c :: rest =>
      if c = ']' then .ok rest
      else if first then do skipItems fuel false (← skipValue fuel (c :: rest))
      else if c = ',' then do skipItems fuel false (← skipValue fuel rest)
      else stopIn .expectedCommaOrBracket (c :: rest)

/-- Passes over the entries of an object and its brace. -/
def skipEntries : Nat → Bool → List Char → Reading SyntaxFault (List Char)
  | 0, _, _ => stopAt .endInObject []
  | fuel + 1, first, text =>
    match skipSpace text with
    | [] => stopAt .endInObject []
    | c :: rest =>
      if c = '}' then .ok rest
      else if first then do
        skipEntries fuel false (← skipValue fuel (← skipKey (c :: rest)))
      else if c = ',' then do
        skipEntries fuel false (← skipValue fuel (← skipKey rest))
      else stopIn .expectedCommaOrBrace (c :: rest)

end

end LogSieve.Json
