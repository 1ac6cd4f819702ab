import LogSieve.Json.Numeral
import LogSieve.Json.Quoted
import LogSieve.Text.Letter
import LogSieve.Text.Mark

/-!
# Reading relaxed JSON text

The grammar JSON5: comments, a comma behind the last item, keys without quotes, strings between
single quotes, hexadecimal and signed numbers. A text is read or refused as a whole, without a
reason, and brackets may be nested without limit.
-/

namespace LogSieve.Json.Relaxed

/-! ### Blanks and comments -/

/-- Is the character a blank between tokens? -/
def isSpace (c : Char) : Bool :=
  (0x9 ≤ c.toNat && c.toNat ≤ 0xD) || c.toNat = 0x2028 || c.toNat = 0x2029 ||
    c.toNat = 0xFEFF || Text.spaceSeparators.has c

/-- Does the character end a line? -/
def isLineEnd (c : Char) : Bool :=
  c = '\n' || c = '\r' || c.toNat = 0x2028 || c.toNat = 0x2029

/-- What a character between tokens belongs to. -/
inductive Gap where
  /-- Blanks. -/
  | blank
  /-- A comment up to the end of the line. -/
  | line
  /-- A comment between `/*` and its end mark. -/
  | block

/-- The text behind blanks and comments; none if a comment is not closed. -/
def skipGap : Gap → List Char → Option (List Char)
  | .blank, '/' :: '/' :: rest => skipGap .line rest
  | .blank, '/' :: '*' :: rest => skipGap .block rest
  | .blank, c :: rest => if isSpace c then skipGap .blank rest else some (c :: rest)
  | .line, c :: rest => if isLineEnd c then skipGap .blank rest else skipGap .line rest
  | .block, '*' :: '/' :: rest => skipGap .blank rest
  | .block, _ :: rest => skipGap .block rest
  | .block, [] => none
  | _, [] => some []

/-- The text behind blanks and comments. -/
def skip (text : List Char) : Option (List Char) := skipGap .blank text

/-! ### Strings -/

/-- Reads a surrogate pair or another character, given as one or two escapes of four digits, behind
the first `u`. -/
def readUnicode : List Char → Option (Char × List Char)
  | a :: b :: c :: d :: rest => do
    let unit ← hexValue4? a b c d
    if isTrailing unit then none
    else if isLeading unit then
      match rest with
      | '\\' :: 'u' :: e :: f :: g :: h :: rest => do
        let second ← hexValue4? e f g h
        if isTrailing second then some (joinPair unit second, rest) else none
      | _ => none
    else some (Char.ofNat unit, rest)
  | _ => none

/-- Reads what follows a backslash: a character, or nothing if the backslash continues the line. -/
def readEscape : List Char → Option (Option Char × List Char)
  | [] => none
  | '\r' :: '\n' :: rest => some (none, rest)
  | 'x' :: a :: b :: rest => do
    let a ← hexValue? a
    let b ← hexValue? b
    some (some (Char.ofNat (a * 16 + b)), rest)
  | c :: rest =>
    if isLineEnd c then some (none, rest)
    else if c = 'u' then do
      let (d, rest) ← readUnicode rest
      some (some d, rest)
    else if c = 'x' then none
    else if c = '0' then
      if (rest.head?.map Char.isDigit).getD false then none else some (some '\x00', rest)
    else if c.isDigit then none
    else if c = 'b' then some (some '\x08', rest)
    else if c = 't' then some (some '\t', rest)
    else if c = 'n' then some (some '\n', rest)
    else if c = 'v' then some (some '\x0b', rest)
    else if c = 'f' then some (some '\x0c', rest)
    else if c = 'r' then some (some '\r', rest)
    else some (some c, rest)

/-- Reads the characters up to the closing `quote`; `taken` holds those already read, last first.
Every step takes a character, so that the text itself serves as `fuel`. -/
def readQuotedAfter (quote : Char) :
    List Char → List Char → List Char → Option (String × List Char)
  | [], _, _ => none
  | _, _, [] => none
  | _ :: fuel, taken, c :: rest =>
    if c = quote then some (String.ofList taken.reverse, rest)
    else if c = '\\' then do
      let (d, rest) ← readEscape rest
      readQuotedAfter quote fuel (d.toList ++ taken) rest
    else if c = '\n' || c = '\r' then none
    else readQuotedAfter quote fuel (c :: taken) rest

/-- Reads the text that follows an opening `quote`. -/
def readQuoted (quote : Char) (text : List Char) : Option (String × List Char) :=
  readQuotedAfter quote text [] text

/-! ### Names -/

/-- May the character start a name? -/
def isNameStart (c : Char) : Bool := c = '$' || c = '_' || Text.isLetter c

/-- May the character continue a name? -/
def isNamePart (c : Char) : Bool :=
  isNameStart c || c.toNat = 0x200C || c.toNat = 0x200D || Text.nonspacingMarks.has c ||
    Text.spacingMarks.has c || Text.decimalDigits.has c || Text.connectors.has c

/-- The longest run of characters of a name, given as themselves or as escapes; `taken` holds those
already read, last first. None if an escape stands for no character of a name. -/
def readNameAfter : List Char → List Char → List Char → Option (String × List Char)
  | [], taken, _ => if taken.isEmpty then none else some (String.ofList taken.reverse, [])
  | _ :: fuel, taken, text =>
    let allowed := if taken.isEmpty then isNameStart else isNamePart
    match text with
    | '\\' :: 'u' :: rest => do
      let (c, rest) ← readUnicode rest
      if allowed c then readNameAfter fuel (c :: taken) rest else none
    | c :: rest =>
      if allowed c then readNameAfter fuel (c :: taken) rest
      else if taken.isEmpty || c = '\\' then none
      else some (String.ofList taken.reverse, c :: rest)
    | [] => if taken.isEmpty then none else some (String.ofList taken.reverse, [])

/-- Reads a key: a quoted text or a name. -/
def readKey (text : List Char) : Option (String × List Char) :=
  match text with
  | '"' :: rest => readQuoted '"' rest
  | '\'' :: rest => readQuoted '\'' rest
  | _ => readNameAfter text [] text

/-! ### Numbers -/

/-- The number nearest to an integer: itself within 64 bits, and a double beyond; `null` beyond the
doubles. -/
def ofInteger (negative : Bool) (n : Nat) : Json :=
  let value := if negative then -(n : Int) else n
  if leastInt ≤ value && value ≤ greatestInt then num (.int value)
  else
    match Double.ofDecimal? negative n (Double.digitCount n) 0 with
    | some x => num (.double x)
    | none => null

/-- The double nearest to a decimal; `null` beyond the doubles. -/
def ofDecimal (negative : Bool) (digits : List Char) (exponent : Int) : Json :=
  match Double.ofDecimal? negative (digitsValue digits) digits.length exponent with
  | some x => num (.double x)
  | none => null

/-- Characters that a number goes on with. -/
def isNumberPart (c : Char) : Bool :=
  c.isDigit || c = '.' || c = 'e' || c = 'E' || c = '+' || c = '-'

/-- The value of the digits of an exponent with an optional sign. -/
def exponentValue? : List Char → Option Int
  | '-' :: digits => if !digits.isEmpty && digits.all Char.isDigit then
      some (-(digitsValue digits)) else none
  | '+' :: digits => if !digits.isEmpty && digits.all Char.isDigit then
      some (digitsValue digits) else none
  | digits => if !digits.isEmpty && digits.all Char.isDigit then
      some (digitsValue digits) else none

/-- The number written by the characters, which start with a digit or a point: digits without a
leading zero, a point and an exponent, where digits may be missing on one side of the point. -/
def numberOf? (negative : Bool) (text : List Char) : Option Json :=
  let whole := text.takeWhile Char.isDigit
  let rest := text.dropWhile Char.isDigit
  let leadingZero := whole.head? == some '0' && whole.length ≠ 1
  let (hasPoint, fraction, rest) :=
    match rest with
    | '.' :: rest => (true, rest.takeWhile Char.isDigit, rest.dropWhile Char.isDigit)
    | _ => (false, [], rest)
  if leadingZero || (whole.isEmpty && fraction.isEmpty) then none
  else
    let place : Int := -fraction.length
    match rest with
    | [] =>
      if hasPoint then some (ofDecimal negative (whole ++ fraction) place)
      else some (ofInteger negative (digitsValue whole))
    | c :: rest =>
      if c = 'e' || c = 'E' then
        (exponentValue? rest).map fun n => ofDecimal negative (whole ++ fraction) (place + n)
      else none

/-- Reads hexadecimal digits: at most 128 bits, the sign included if there is one. -/
def readHex (negative : Bool) (text : List Char) : Option (Json × List Char) :=
  let digits := text.takeWhile fun c => (hexValue? c).isSome
  let n := digits.foldl (fun n c => n * 16 + (hexValue? c).getD 0) 0
  let bound := if negative then 1 <<< 127 else (1 <<< 128) - 1
  if digits.isEmpty || bound < n then none
  else some (ofInteger negative n, text.drop digits.length)

/-- Reads a number behind its sign. -/
def readNumber (negative : Bool) (text : List Char) : Option (Json × List Char) :=
  match text with
  | 'I' :: 'n' :: 'f' :: 'i' :: 'n' :: 'i' :: 't' :: 'y' :: rest => some (null, rest)
  | 'N' :: 'a' :: 'N' :: rest => some (null, rest)
  | '0' :: 'x' :: rest => readHex negative rest
  | '0' :: 'X' :: rest => readHex negative rest
  | c :: _ =>
    if c.isDigit || c = '.' then
      (numberOf? negative (text.takeWhile isNumberPart)).map (·, text.dropWhile isNumberPart)
    else none
  | [] => none

/-! ### Values -/

mutual

/-- Reads a value. One more than twice the number of characters suffices as `fuel`. -/
def readValue : Nat → List Char → Option (Json × List Char)
  | 0, _ => none
  | fuel + 1, text => do
    match ← skip text with
    | 'n' :: 'u' :: 'l' :: 'l' :: rest => some (null, rest)
    | 't' :: 'r' :: 'u' :: 'e' :: rest => some (bool true, rest)
    | 'f' :: 'a' :: 'l' :: 's' :: 'e' :: rest => some (bool false, rest)
    | '[' :: rest => readItems fuel [] rest
    | '{' :: rest => readEntries fuel [] rest
    | '"' :: rest => do
      let (s, rest) ← readQuoted '"' rest
      some (str s, rest)
    | '\'' :: rest => do
      let (s, rest) ← readQuoted '\'' rest
      some (str s, rest)
    | '-' :: rest => readNumber true rest
    | '+' :: rest => readNumber false rest
    | rest => readNumber false rest

/-- Reads the items of a list up to its bracket; `taken` holds those already read, last first. -/
def readItems : Nat → List Json → List Char → Option (Json × List Char)
  | 0, _, _ => none
  | fuel + 1, taken, text => do
    match ← skip text with
    | ']' :: rest => some (arr taken.reverse, rest)
    | text =>
      let (value, rest) ← readValue fuel text
      match ← skip rest with
      | ',' :: rest => readItems fuel (value :: taken) rest
      | ']' :: rest => some (arr (value :: taken).reverse, rest)
      | _ => none

/-- Reads the entries of an object up to its brace; `taken` holds those already read. -/
def readEntries : Nat → List (String × Json) → List Char → Option (Json × List Char)
  | 0, _, _ => none
  | fuel + 1, taken, text => do
    match ← skip text with
    | '}' :: rest => some (obj taken, rest)
    | text =>
      let (key, rest) ← readKey text
      match ← skip rest with
      | ':' :: rest =>
        let (value, rest) ← readValue fuel rest
        match ← skip rest with
        | ',' :: rest => readEntries fuel (Entries.put key value taken) rest
        | '}' :: rest => some (obj (Entries.put key value taken), rest)
        | _ => none
      | _ => none

end

/-- Reads a text that holds one value. -/
def parse? (text : String) : Option Json := do
  let chars := text.toList
  let (value, rest) ← readValue (2 * chars.length + 1) chars
  match ← skip rest with
  | [] => some value
  | _ => none

end LogSieve.Json.Relaxed
