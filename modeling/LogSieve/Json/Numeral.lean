import LogSieve.Json.Basic
import LogSieve.Json.Fault

/-!
# Numerals

How numbers are read in JSON text. A numeral without fraction and exponent is an integer if it fits
64 bits, signed or unsigned; all others are doubles. Of the digits of a double as many are
significant as fit 64 bits.
-/

namespace LogSieve.Json

/-- The least integer. -/
def leastInt : Int := -0x8000000000000000

/-- The greatest integer, which is also the greatest significand of a double. -/
def greatestInt : Nat := 0xFFFFFFFFFFFFFFFF

/-- The greatest exponent that is read. -/
def greatestExponent : Nat := 0x7FFFFFFF

/-- The value of a decimal digit. -/
def digitValue (c : Char) : Nat := c.toNat - 48

/-- The number written by digits. -/
def digitsValue (digits : List Char) : Nat :=
  digits.foldl (fun n c => n * 10 + digitValue c) 0

/-- A significand followed by digits: the significand with those of them that fit 64 bits, and the
number of digits that do not. -/
def significant : Nat → List Char → Nat × Nat
  | n, [] => (n, 0)
  | n, c :: digits =>
    if n * 10 + digitValue c ≤ greatestInt then significant (n * 10 + digitValue c) digits
    else (n, digits.length + 1)

/-- The decimal of a significand, or a fault behind the numeral. -/
def readScaled (negative : Bool) (significand : Nat) (exponent : Int) (rest : List Char) :
    Reading SyntaxFault (Number × List Char) :=
  match Double.ofScaled? negative significand exponent with
  | some x => .ok (.double x, rest)
  | none => stopAt .numberOutOfRange rest

/-- The number written by the digits of an exponent. Stops with the rest of the text behind the
digit that makes it too large. -/
def readExponentDigits : Nat → List Char → Except (List Char) (Nat × List Char)
  | n, [] => .ok (n, [])
  | n, c :: rest =>
    if c.isDigit then
      if n * 10 + digitValue c ≤ greatestExponent then
        readExponentDigits (n * 10 + digitValue c) rest
      else .error rest
    else .ok (n, c :: rest)

/-- Reads what follows the `e` of an exponent. -/
def readExponent (negative : Bool) (significand : Nat) (exponent : Int) (text : List Char) :
    Reading SyntaxFault (Number × List Char) :=
  let (minus, text) :=
    match text with
    | '+' :: rest => (false, rest)
    | '-' :: rest => (true, rest)
    | _ => (false, text)
  match text with
  | [] => stopAt .endInValue []
  | c :: _ =>
    if c.isDigit then
      match readExponentDigits 0 text with
      | .ok (n, rest) =>
        readScaled negative significand (if minus then exponent - n else exponent + n) rest
      | .error rest =>
        if significand ≠ 0 && !minus then stopAt .numberOutOfRange rest
        else .ok (.double { Double.zero with negative }, rest.dropWhile Char.isDigit)
    else stopIn .invalidNumber text

/-- Reads what may follow the digits before the point. -/
def readFraction (negative : Bool) (whole : List Char) (text : List Char) :
    Reading SyntaxFault (Number × List Char) :=
  let (significand, dropped) := significant 0 whole
  match text with
  | '.' :: rest =>
    let digits := rest.takeWhile Char.isDigit
    let rest := rest.dropWhile Char.isDigit
    let (significand, lost) := significant significand digits
    let exponent : Int := dropped - (digits.length - lost : Nat)
    if digits.isEmpty then
      if rest.isEmpty then stopAt .endInValue [] else stopIn .invalidNumber rest
    else
      match rest with
      | 'e' :: rest => readExponent negative significand exponent rest
      | 'E' :: rest => readExponent negative significand exponent rest
      | _ => readScaled negative significand exponent rest
  | 'e' :: rest => readExponent negative significand dropped rest
  | 'E' :: rest => readExponent negative significand dropped rest
  | _ =>
    let n := digitsValue whole
    if negative then
      if n ≠ 0 && leastInt ≤ -(n : Int) then .ok (.int (-n), text)
      else readScaled true significand dropped text
    else if n ≤ greatestInt then .ok (.int n, text)
    else readScaled false significand dropped text

/-- Reads a numeral, behind its minus sign if it has one. -/
def readNumber (negative : Bool) (text : List Char) :
    Reading SyntaxFault (Number × List Char) :=
  let whole := text.takeWhile Char.isDigit
  let rest := text.dropWhile Char.isDigit
  match whole with
  | [] => if text.isEmpty then stopAt .endInValue [] else stopIn .invalidNumber text
  | '0' :: _ :: _ => stopIn .invalidNumber (text.drop 1)
  | _ => readFraction negative whole rest

end LogSieve.Json
