import LogSieve.Json.Numeral
import LogSieve.Json.Quoted
import LogSieve.Record.Timestamp
import LogSieve.Toml.Basic

/-!
# TOML texts, numbers and dates

How the values of TOML that hold no others are read: four kinds of texts, integers in four bases,
floating-point numbers, dates and times. Each reader takes a value from the front of a text.
-/

namespace LogSieve.Toml

open Json (hexValue?)

/-! ### Blanks -/

/-- Is the character a blank within a line? -/
def isBlank (c : Char) : Bool := c = ' ' || c = '\t'

/-- The text without the blanks at its start. -/
def skipBlanks (text : List Char) : List Char := text.dropWhile isBlank

/-- The text behind a line end, if it starts with one. -/
def lineEnd? : List Char → Option (List Char)
  | '\n' :: rest => some rest
  | '\r' :: '\n' :: rest => some rest
  | _ => none

/-- May the character stand in a text as it is, quotes and backslashes apart, or in a comment? -/
def isTextChar (c : Char) : Bool := c = '\t' || (0x20 ≤ c.toNat && c.toNat ≠ 0x7F)

/-! ### Texts -/

/-- The character of a number, unless it is half of a surrogate pair or too large. -/
def charOf? (n : Nat) : Option Char := if n.isValidChar then some (Char.ofNat n) else none

/-- The character given by `count` hexadecimal digits. -/
def readHexChar (count : Nat) (text : List Char) : Option (Char × List Char) := do
  let digits ← (text.take count).mapM hexValue?
  if digits.length = count then
    return (← charOf? (digits.foldl (fun n d => n * 16 + d) 0), text.drop count)
  else none

/-- The character of an escape, behind its backslash. -/
def readEscape : List Char → Option (Char × List Char)
  | [] => none
  | c :: rest =>
    if c = 'b' then some ('\x08', rest)
    else if c = 't' then some ('\t', rest)
    else if c = 'n' then some ('\n', rest)
    else if c = 'f' then some ('\x0c', rest)
    else if c = 'r' then some ('\r', rest)
    else if c = '"' || c = '\\' then some (c, rest)
    else if c = 'u' then readHexChar 4 rest
    else if c = 'U' then readHexChar 8 rest
    else none

/-- How a text is delimited. -/
structure TextForm where
  /-- The quote at its ends. -/
  quote : Char
  /-- Has it escapes? -/
  escapes : Bool
  /-- May it go over several lines? Its ends have three quotes then. -/
  lines : Bool

/-- Blanks and line ends at the start of a text, taken away. The text itself serves as `fuel`. -/
def skipLines : List Char → List Char → List Char
  | [], text => text
  | _ :: fuel, text =>
    match lineEnd? (skipBlanks text) with
    | some rest => skipLines fuel rest
    | none => skipBlanks text

/-- Reads the characters of a text up to its end; `taken` holds those already read, last first.
Every step takes a character, so that the text itself serves as `fuel`. -/
def readTextAfter (form : TextForm) :
    List Char → List Char → List Char → Option (String × List Char)
  | [], _, _ => none
  | _, _, [] => none
  | _ :: fuel, taken, c :: rest =>
    if c = form.quote then
      if form.lines then
        let run := (c :: rest).takeWhile (· = c)
        let rest := rest.drop (run.length - 1)
        if run.length < 3 then readTextAfter form fuel (run ++ taken) rest
        else
          let inner := min (run.length - 3) 2
          some (String.ofList (List.replicate inner c ++ taken).reverse,
            List.replicate (run.length - 3 - inner) c ++ rest)
      else some (String.ofList taken.reverse, rest)
    else if c = '\\' && form.escapes then
      match if form.lines then lineEnd? (skipBlanks rest) else none with
      | some rest => readTextAfter form fuel taken (skipLines rest rest)
      | none => do
        let (d, rest) ← readEscape rest
        readTextAfter form fuel (d :: taken) rest
    else
      match if form.lines then lineEnd? (c :: rest) else none with
      | some rest => readTextAfter form fuel ('\n' :: taken) rest
      | none => if isTextChar c then readTextAfter form fuel (c :: taken) rest else none

/-- Reads a text in the given form, behind the quotes at its start. A line end that follows these
does not count. -/
def readForm (form : TextForm) (text : List Char) : Option (String × List Char) :=
  let text := if form.lines then (lineEnd? text).getD text else text
  readTextAfter form text [] text

/-- Reads a text of one line. -/
def readLineText : List Char → Option (String × List Char)
  | '"' :: rest => readForm ⟨'"', true, false⟩ rest
  | '\'' :: rest => readForm ⟨'\'', false, false⟩ rest
  | _ => none

/-- Reads a text. -/
def readText : List Char → Option (String × List Char)
  | '"' :: '"' :: '"' :: rest => readForm ⟨'"', true, true⟩ rest
  | '\'' :: '\'' :: '\'' :: rest => readForm ⟨'\'', false, true⟩ rest
  | text => readLineText text

/-! ### Numbers -/

/-- Reads digits, between which single underscores may stand; `taken` holds those already read,
last first. -/
def readDigitsAfter (isDigit : Char → Bool) (taken : List Char) :
    List Char → Option (List Char × List Char)
  | '_' :: c :: rest =>
    if !taken.isEmpty && isDigit c then readDigitsAfter isDigit (c :: taken) rest else none
  | c :: rest =>
    if isDigit c then readDigitsAfter isDigit (c :: taken) rest
    else if taken.isEmpty || c = '_' then none
    else some (taken.reverse, c :: rest)
  | [] => if taken.isEmpty then none else some (taken.reverse, [])

/-- Reads digits, of which there must be one. -/
def readDigits (isDigit : Char → Bool) (text : List Char) : Option (List Char × List Char) :=
  readDigitsAfter isDigit [] text

/-- The integer of digits in a base, if it has 64 bits. -/
def integerOf? (negative : Bool) (base : Nat) (digits : List Char) : Option Toml :=
  let n := digits.foldl (fun n c => n * base + (hexValue? c).getD 0) 0
  let value := if negative then -(n : Int) else n
  if -0x8000000000000000 ≤ value && value < 0x8000000000000000 then some (integer value) else none

/-- Is the character a digit of the base? -/
def isDigitOf (base : Nat) (c : Char) : Bool := (hexValue? c).any (· < base)

/-- Takes a sign, if there is one. -/
def readSign : List Char → List Char × List Char
  | '-' :: rest => (['-'], rest)
  | '+' :: rest => (['+'], rest)
  | rest => ([], rest)

/-- Reads a point and the digits behind it, if they follow. -/
def readFraction (text : List Char) : Option (List Char × List Char) :=
  match text with
  | '.' :: rest => readDigits Char.isDigit rest
  | _ => some ([], text)

/-- Reads an exponent, if one follows. -/
def readExponent (text : List Char) : Option (Option Int × List Char) :=
  let signed (rest : List Char) : Option (Option Int × List Char) := do
    let (sign, rest) := readSign rest
    let (digits, rest) ← readDigits Char.isDigit rest
    let n : Int := Json.digitsValue digits
    return (some (if sign = ['-'] then -n else n), rest)
  match text with
  | 'e' :: rest => signed rest
  | 'E' :: rest => signed rest
  | _ => some (none, text)

/-- Reads a number in base ten behind its sign: an integer, or with a fraction or an exponent a
floating-point number, which must not be greater than the finite ones. -/
def readDecimal (sign text : List Char) : Option (Toml × List Char) := do
  let negative := sign = ['-']
  let (digits, rest) ← readDigits Char.isDigit text
  if digits.head? = some '0' && digits.length ≠ 1 then none
  else
    let (fraction, rest) ← readFraction rest
    let (exponent, rest) ← readExponent rest
    if fraction.isEmpty && exponent.isNone then return (← integerOf? negative 10 digits, rest)
    else
      let all := digits ++ fraction
      let place : Int := exponent.getD 0 - fraction.length
      let finite :=
        (Double.ofDecimal? negative (Json.digitsValue all) all.length place).isSome
      if finite || negative then
        let written := text.take (text.length - rest.length)
        return (float (String.ofList (sign ++ written)), rest)
      else none

/-- Reads a number. A number in another base than ten has no sign. -/
def readNumber (text : List Char) : Option (Toml × List Char) :=
  let inBase (base : Nat) (rest : List Char) : Option (Toml × List Char) := do
    let (digits, rest) ← readDigits (isDigitOf base) rest
    return (← integerOf? false base digits, rest)
  match text with
  | '0' :: 'x' :: rest => inBase 16 rest
  | '0' :: 'o' :: rest => inBase 8 rest
  | '0' :: 'b' :: rest => inBase 2 rest
  | _ =>
    let (sign, rest) := readSign text
    match rest with
    | 'i' :: 'n' :: 'f' :: rest => some (float (String.ofList (sign ++ ['i', 'n', 'f'])), rest)
    | 'n' :: 'a' :: 'n' :: rest => some (float (String.ofList (sign ++ ['n', 'a', 'n'])), rest)
    | _ => readDecimal sign rest

/-! ### Dates and times -/

/-- The text behind exactly `count` digits, and their value. -/
def readPlaces (count : Nat) (text : List Char) : Option (Nat × List Char) :=
  let digits := text.take count
  if digits.length = count && digits.all Char.isDigit then
    some (Json.digitsValue digits, text.drop count)
  else none

/-- The text behind a given character. -/
def readMark (mark : Char) : List Char → Option (List Char)
  | [] => none
  | c :: rest => if c = mark then some rest else none

/-- The text behind a date. -/
def readDate (text : List Char) : Option (List Char) := do
  let (year, rest) ← readPlaces 4 text
  let (month, rest) ← readPlaces 2 (← readMark '-' rest)
  let (day, rest) ← readPlaces 2 (← readMark '-' rest)
  if (Date.ofCivil? year month day).isSome then some rest else none

/-- The text behind a time of day. -/
def readTime (text : List Char) : Option (List Char) := do
  let (hour, rest) ← readPlaces 2 text
  let (minute, rest) ← readPlaces 2 (← readMark ':' rest)
  let (second, rest) ← readPlaces 2 (← readMark ':' rest)
  if (Clock.ofParts? hour minute second 0).isNone then none
  else
    match rest with
    | '.' :: rest =>
      if (rest.takeWhile Char.isDigit).isEmpty then some ('.' :: rest)
      else some (rest.dropWhile Char.isDigit)
    | _ => some rest

/-- The text behind an offset from universal time, if one follows. -/
def readOffset (text : List Char) : Option (List Char) :=
  let signed (rest : List Char) : Option (List Char) := do
    let (hour, rest) ← readPlaces 2 rest
    let (minute, rest) ← readPlaces 2 (← readMark ':' rest)
    if hour < 24 && minute < 60 then some rest else none
  match text with
  | 'Z' :: rest => some rest
  | 'z' :: rest => some rest
  | '+' :: rest => signed rest
  | '-' :: rest => signed rest
  | _ => some text

/-- The text behind a time and an offset, if they follow a date. -/
def readTimeOfDate (text : List Char) : Option (List Char) :=
  match text with
  | c :: rest =>
    if c = 'T' || c = 't' || c = ' ' then
      match readTime rest with
      | some rest => readOffset rest
      | none => some text
    else some text
  | [] => some []

/-- Reads a date, a time of day, or both. -/
def readDateTime (text : List Char) : Option (Toml × List Char) := do
  let rest ←
    match readDate text with
    | some rest => readTimeOfDate rest
    | none => readTime text
  return (dateTime (String.ofList (text.take (text.length - rest.length))), rest)

/-! ### All of them -/

/-- Reads a value that holds no others. -/
def readScalar (text : List Char) : Option (Toml × List Char) :=
  match text with
  | 't' :: 'r' :: 'u' :: 'e' :: rest => some (boolean true, rest)
  | 'f' :: 'a' :: 'l' :: 's' :: 'e' :: rest => some (boolean false, rest)
  | c :: _ =>
    if c = '"' || c = '\'' then (readText text).map fun (s, rest) => (string s, rest)
    else (readDateTime text).or (readNumber text)
  | [] => none

end LogSieve.Toml
