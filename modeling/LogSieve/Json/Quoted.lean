import LogSieve.Json.Basic
import LogSieve.Json.Fault

/-!
# Quoted text

How JSON writes text between quotes and how it is read back. The writer leaves every character as
it is except the quote, the backslash and the control characters below the blank.
-/

namespace LogSieve.Json

/-! ### Writing -/

/-- The lower-case hexadecimal digit of a number below 16. -/
def hexDigit (n : Nat) : Char := if n < 10 then Char.ofNat (48 + n) else Char.ofNat (87 + n)

/-- A character as it is written between quotes. -/
def escapeChar (c : Char) : List Char :=
  if c = '"' then ['\\', '"']
  else if c = '\\' then ['\\', '\\']
  else if c.toNat < 0x20 then
    if c = '\n' then ['\\', 'n']
    else if c = '\r' then ['\\', 'r']
    else if c = '\t' then ['\\', 't']
    else if c.toNat = 8 then ['\\', 'b']
    else if c.toNat = 12 then ['\\', 'f']
    else ['\\', 'u', '0', '0', hexDigit (c.toNat / 16), hexDigit (c.toNat % 16)]
  else [c]

/-- A text between quotes. -/
def quote (text : String) : List Char := '"' :: (text.toList.flatMap escapeChar ++ ['"'])

/-! ### Reading -/

/-- The value of a hexadecimal digit. -/
def hexValue? (c : Char) : Option Nat :=
  if '0' ≤ c && c ≤ '9' then some (c.toNat - 48)
  else if 'a' ≤ c && c ≤ 'f' then some (c.toNat - 87)
  else if 'A' ≤ c && c ≤ 'F' then some (c.toNat - 55)
  else none

/-- The value of four hexadecimal digits. -/
def hexValue4? (a b c d : Char) : Option Nat := do
  let a ← hexValue? a
  let b ← hexValue? b
  let c ← hexValue? c
  let d ← hexValue? d
  return ((a * 16 + b) * 16 + c) * 16 + d

/-- Reads four hexadecimal digits. Four bytes are taken at once, whatever they are. -/
def readHex4 (text : List Char) : Reading SyntaxFault (Nat × List Char) :=
  let digits :=
    match text with
    | a :: b :: c :: d :: rest => (hexValue4? a b c d).map (·, rest)
    | _ => none
  match digits with
  | some result => .ok result
  | none =>
    if bytes text < 4 then .error ⟨.endInString, 0⟩
    else .error ⟨.invalidEscape, bytes text - 4⟩

/-- Is the unit the first half of a surrogate pair? -/
def isLeading (unit : Nat) : Bool := 0xD800 ≤ unit && unit ≤ 0xDBFF

/-- Is the unit the second half of a surrogate pair? -/
def isTrailing (unit : Nat) : Bool := 0xDC00 ≤ unit && unit ≤ 0xDFFF

/-- The character of a surrogate pair. -/
def joinPair (leading trailing : Nat) : Char :=
  Char.ofNat ((leading - 0xD800) * 0x400 + (trailing - 0xDC00) + 0x10000)

/-- Reads what follows a backslash and a `u`: a unit, or a pair of surrogates as two escapes. -/
def readUnicode (text : List Char) : Reading SyntaxFault (Char × List Char) := do
  let (unit, rest) ← readHex4 text
  if isTrailing unit then stopAt .loneSurrogate rest
  else if isLeading unit then
    match rest with
    | [] => stopAt .endInString rest
    | '\\' :: [] => stopAt .endInString []
    | '\\' :: 'u' :: rest => do
      let (second, rest) ← readHex4 rest
      if isTrailing second then return (joinPair unit second, rest)
      else stopAt .loneSurrogate rest
    | '\\' :: rest => stopIn .missingSurrogate rest
    | rest => stopIn .missingSurrogate rest
  else return (Char.ofNat unit, rest)

/-- The character of a one-letter escape. -/
def shortEscape? : Char → Option Char
  | '"' => some '"'
  | '\\' => some '\\'
  | '/' => some '/'
  | 'b' => some '\x08'
  | 'f' => some '\x0c'
  | 'n' => some '\n'
  | 'r' => some '\r'
  | 't' => some '\t'
  | _ => none

/-- Reads what follows a backslash. -/
def readEscape (text : List Char) : Reading SyntaxFault (Char × List Char) :=
  match text with
  | [] => stopAt .endInString []
  | 'u' :: rest => readUnicode rest
  | c :: rest =>
    match shortEscape? c with
    | some d => .ok (d, rest)
    | none => stopIn .invalidEscape text

/-- Reads the characters up to the closing quote; `taken` holds those already read, last first.
Every step takes a character, so that the text itself serves as `fuel`. -/
def readQuotedAfter : List Char → List Char → List Char → Reading SyntaxFault (String × List Char)
  | [], _, _ => stopAt .endInString []
  | _, _, [] => stopAt .endInString []
  | _ :: fuel, taken, c :: rest =>
    if c = '"' then .ok (String.ofList taken.reverse, rest)
    else if c = '\\' then do
      let (d, rest) ← readEscape rest
      readQuotedAfter fuel (d :: taken) rest
    else if c.toNat < 0x20 then stopAt .controlCharacter rest
    else readQuotedAfter fuel (c :: taken) rest

/-- Reads the text that follows an opening quote. -/
def readQuoted (text : List Char) : Reading SyntaxFault (String × List Char) :=
  readQuotedAfter text [] text

end LogSieve.Json
