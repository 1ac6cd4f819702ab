import LogSieve.Json.Skip
import LogSieve.Record.Basic
import LogSieve.Text.Escaped

/-!
# Reading record files

A record file is a JSON list. A record is an object, whose unknown keys are passed over, or a list
of its six values in order. The fields are read straight from the text, so that a value of the
wrong type is found before any fault behind it.
-/

namespace LogSieve

open Json

/-! ### Faults -/

/-- What stands where a value of another type is expected. -/
inductive Found where
  /-- `null`. -/
  | null
  /-- A truth value. -/
  | boolean (value : Bool)
  /-- A number. -/
  | number (value : Number)
  /-- A text. -/
  | string (value : String)
  /-- A list. -/
  | sequence
  /-- An object. -/
  | map

/-- What stands there, in words. -/
def Found.words : Found → String
  | .null => "null"
  | .boolean value => "boolean `" ++ (if value then "true" else "false") ++ "`"
  | .number (.int n) => "integer `" ++ toString n ++ "`"
  | .number (.double x) => "floating point `" ++ x.render ++ "`"
  | .string value => "string " ++ Text.escaped value
  | .sequence => "sequence"
  | .map => "map"

/-- The type of value that is expected. -/
inductive Expected where
  /-- The list of records. -/
  | sequence
  /-- A record. -/
  | record
  /-- A signed integer of 64 bits. -/
  | integer
  /-- A text. -/
  | string

/-- The expected type, in words. -/
def Expected.words : Expected → String
  | .sequence => "a sequence"
  | .record => "struct LogRecord"
  | .integer => "i64"
  | .string => "a string"

/-- The fields of a log record. -/
inductive RecordKey where
  /-- The number. -/
  | id
  /-- The browser. -/
  | browser
  /-- The page. -/
  | pageUrl
  /-- The country. -/
  | country
  /-- The message. -/
  | message
  /-- The time of creation. -/
  | created
deriving DecidableEq

/-- The name of a field. -/
def RecordKey.name : RecordKey → String
  | .id => "id"
  | .browser => "browser"
  | .pageUrl => "page_url"
  | .country => "country"
  | .message => "message"
  | .created => "created"

/-- The field of a name. -/
def RecordKey.ofName? (name : String) : Option RecordKey :=
  [RecordKey.id, .browser, .pageUrl, .country, .message, .created].find? fun key => key.name == name

/-- Why a text is no list of records. -/
inductive RecordFault where
  /-- It is not JSON. -/
  | malformed (fault : SyntaxFault)
  /-- A value has another type than expected. -/
  | wrongType (found : Found) (expected : Expected)
  /-- A record's number does not fit. -/
  | numberTooLarge (n : Int)
  /-- A field is missing. -/
  | missing (key : RecordKey)
  /-- A field is given twice. -/
  | duplicate (key : RecordKey)
  /-- A record given as a list lacks the value at this place. -/
  | tooShort (length : Nat)
  /-- No timestamp can be read. -/
  | badTimestamp (text : String)

/-- The fault in words. -/
def RecordFault.message : RecordFault → String
  | .malformed fault => fault.message
  | .wrongType found expected =>
    "invalid type: " ++ found.words ++ ", expected " ++ expected.words
  | .numberTooLarge n =>
    "invalid value: integer `" ++ toString n ++ "`, expected " ++ Expected.integer.words
  | .missing key => "missing field `" ++ key.name ++ "`"
  | .duplicate key => "duplicate field `" ++ key.name ++ "`"
  | .tooShort length =>
    "invalid length " ++ toString length ++ ", expected struct LogRecord with 6 elements"
  | .badTimestamp text => "invalid created timestamp: '" ++ text ++ "'"

/-- A fault of the text as a fault of the record file. -/
def liftSyntax {α : Type} : Reading SyntaxFault α → Reading RecordFault α
  | .ok a => .ok a
  | .error stop => .error ⟨.malformed stop.cause, stop.left⟩

/-! ### Values -/

/-- Stops at a value of another type than expected. A scalar is read whole before, so that a fault
in it comes first. -/
def refuse {α : Type} (expected : Expected) (text : List Char) : Reading RecordFault α :=
  match text with
  | [] => stopAt (.malformed .endInValue) []
  | c :: rest =>
    if c = 'n' then do
      let rest ← liftSyntax (readWord ['u', 'l', 'l'] rest)
      stopAt (.wrongType .null expected) rest
    else if c = 't' then do
      let rest ← liftSyntax (readWord ['r', 'u', 'e'] rest)
      stopAt (.wrongType (.boolean true) expected) rest
    else if c = 'f' then do
      let rest ← liftSyntax (readWord ['a', 'l', 's', 'e'] rest)
      stopAt (.wrongType (.boolean false) expected) rest
    else if c = '-' then do
      let (n, rest) ← liftSyntax (readNumber true rest)
      stopAt (.wrongType (.number n) expected) rest
    else if c.isDigit then do
      let (n, rest) ← liftSyntax (readNumber false (c :: rest))
      stopAt (.wrongType (.number n) expected) rest
    else if c = '"' then do
      let (s, rest) ← liftSyntax (readQuoted rest)
      stopAt (.wrongType (.string s) expected) rest
    else if c = '[' then stopAt (.wrongType .sequence expected) (c :: rest)
    else if c = '{' then stopAt (.wrongType .map expected) (c :: rest)
    else stopIn (.malformed .expectedValue) (c :: rest)

/-- The number of a record, or a fault behind it. -/
def acceptId (n : Number) (rest : List Char) : Reading RecordFault (Int64 × List Char) :=
  match n with
  | .int n =>
    if n < 0x8000000000000000 then .ok (Int64.ofInt n, rest) else stopAt (.numberTooLarge n) rest
  | n => stopAt (.wrongType (.number n) .integer) rest

/-- Reads the number of a record. -/
def readId (text : List Char) : Reading RecordFault (Int64 × List Char) :=
  match skipSpace text with
  | [] => stopAt (.malformed .endInValue) []
  | c :: rest =>
    if c = '-' then do
      let (n, rest) ← liftSyntax (readNumber true rest)
      acceptId n rest
    else if c.isDigit then do
      let (n, rest) ← liftSyntax (readNumber false (c :: rest))
      acceptId n rest
    else refuse .integer (c :: rest)

/-- Reads a text. -/
def readText (text : List Char) : Reading RecordFault (String × List Char) :=
  match skipSpace text with
  | [] => stopAt (.malformed .endInValue) []
  | c :: rest =>
    if c = '"' then liftSyntax (readQuoted rest) else refuse .string (c :: rest)

/-! ### Records -/

/-- The fields of a record read so far. -/
structure Draft where
  /-- The number, if read. -/
  id : Option Int64 := none
  /-- The browser, if read. -/
  browser : Option String := none
  /-- The page, if read. -/
  pageUrl : Option String := none
  /-- The country, if read. -/
  country : Option String := none
  /-- The message, if read. -/
  message : Option String := none
  /-- The time of creation, if read. -/
  created : Option Timestamp := none

namespace Draft

/-- Has the field been read? -/
def has (draft : Draft) : RecordKey → Bool
  | .id => draft.id.isSome
  | .browser => draft.browser.isSome
  | .pageUrl => draft.pageUrl.isSome
  | .country => draft.country.isSome
  | .message => draft.message.isSome
  | .created => draft.created.isSome

/-- The record of the fields, or the first field that is missing. The page may be missing; it is
empty then. -/
def finish (draft : Draft) : Except RecordKey LogRecord := do
  let need {α : Type} (key : RecordKey) (value : Option α) : Except RecordKey α :=
    match value with
    | some value => .ok value
    | none => .error key
  return {
    id := ← need .id draft.id
    browser := ← need .browser draft.browser
    pageUrl := draft.pageUrl.getD ""
    country := ← need .country draft.country
    message := ← need .message draft.message
    created := ← need .created draft.created }

end Draft

/-- Reads the value of a field. `close` finishes a fault that is only found when the whole value
has been read: it says up to where the text counts as read. -/
def readField (close : List Char → List Char) (key : RecordKey) (draft : Draft)
    (text : List Char) : Reading RecordFault (Draft × List Char) :=
  match key with
  | .id => do
    let (n, rest) ← readId text
    return ({ draft with id := some n }, rest)
  | .browser => do
    let (s, rest) ← readText text
    return ({ draft with browser := some s }, rest)
  | .pageUrl => do
    let (s, rest) ← readText text
    return ({ draft with pageUrl := some s }, rest)
  | .country => do
    let (s, rest) ← readText text
    return ({ draft with country := some s }, rest)
  | .message => do
    let (s, rest) ← readText text
    return ({ draft with message := some s }, rest)
  | .created => do
    let (s, rest) ← readText text
    match Timestamp.parse? s with
    | some t => return ({ draft with created := some t }, rest)
    | none => stopAt (.badTimestamp s) (close rest)

/-- Up to where an object counts as read when a fault is found in it as a whole: blanks, and the
brace if it follows. -/
def closeObject (text : List Char) : List Char :=
  match skipSpace text with
  | '}' :: rest => rest
  | rest => rest

/-- Up to where a list counts as read when a fault is found in it as a whole: blanks and the
bracket or a comma with blanks, if it follows. -/
def closeList (text : List Char) : List Char :=
  match skipSpace text with
  | ']' :: rest => rest
  | ',' :: rest => skipSpace rest
  | rest => rest

/-- Reads the entries of a record up to its brace. One more than twice the number of characters
suffices as `fuel`. -/
def readRecordEntries : Nat → Bool → Draft → List Char →
    Reading RecordFault (LogRecord × List Char)
  | 0, _, _, _ => stopAt (.malformed .endInObject) []
  | fuel + 1, first, draft, text => do
    match ← liftSyntax (nextEntry first text) with
    | .finish rest =>
      match draft.finish with
      | .ok record => return (record, rest.drop 1)
      | .error key => stopAt (.missing key) (closeObject rest)
    | .item rest =>
      let (name, rest) ← liftSyntax (readQuoted (rest.drop 1))
      match RecordKey.ofName? name with
      | some key =>
        if draft.has key then stopAt (.duplicate key) (closeObject rest)
        else
          let (draft, rest) ← readField closeObject key draft (← liftSyntax (readColon rest))
          readRecordEntries fuel false draft rest
      | none =>
        let rest ← liftSyntax (do skipValue fuel (← readColon rest))
        readRecordEntries fuel false draft rest

/-- Reads the values of a record given as a list, from the one at place `count` on. The page may be
missing; a later value may not. -/
def readRecordValues : Nat → List RecordKey → Draft → List Char →
    Reading RecordFault (Draft × List Char)
  | _, [], draft, text => .ok (draft, text)
  | count, key :: keys, draft, text => do
    match ← liftSyntax (nextItem (count == 0) text) with
    | .finish rest =>
      if key = .pageUrl then readRecordValues (count + 1) keys draft rest
      else stopAt (.tooShort count) (closeList rest)
    | .item rest =>
      let (draft, rest) ← readField closeList key draft rest
      readRecordValues (count + 1) keys draft rest

/-- Accepts the bracket behind the last value of a record given as a list. -/
def readListEnd (text : List Char) : Reading SyntaxFault (List Char) :=
  match skipSpace text with
  | [] => stopAt .endInList []
  | ']' :: rest => .ok rest
  | ',' :: rest =>
    match skipSpace rest with
    | ']' :: rest => stopIn .trailingComma (']' :: rest)
    | rest => stopIn .trailingCharacters rest
  | rest => stopIn .trailingCharacters rest

/-- Reads a record, with the `fuel` of `readRecordEntries`. -/
def readRecord (fuel : Nat) (text : List Char) : Reading RecordFault (LogRecord × List Char) :=
  match skipSpace text with
  | [] => stopAt (.malformed .endInValue) []
  | c :: rest =>
    if c = '{' then readRecordEntries fuel true {} rest
    else if c = '[' then do
      let (draft, rest) ←
        readRecordValues 0 [.id, .browser, .pageUrl, .country, .message, .created] {} rest
      match draft.finish with
      | .ok record => return (record, ← liftSyntax (readListEnd rest))
      | .error key => stopAt (.missing key) rest
    else refuse .record (c :: rest)

/-- Reads the records of a list up to its bracket; `taken` holds those already read, last first.
One more than twice the number of characters suffices as `fuel`. -/
def readRecordList : Nat → List LogRecord → List Char →
    Reading RecordFault (List LogRecord × List Char)
  | 0, _, _ => stopAt (.malformed .endInList) []
  | fuel + 1, taken, text => do
    match ← liftSyntax (nextItem taken.isEmpty text) with
    | .finish rest => return (taken.reverse, rest.drop 1)
    | .item rest =>
      let (record, rest) ← readRecord fuel rest
      readRecordList fuel (record :: taken) rest

/-- Reads the whole text of a record file. -/
def readRecords (text : List Char) : Reading RecordFault (List LogRecord) :=
  match skipSpace text with
  | [] => stopAt (.malformed .endInValue) []
  | c :: rest =>
    if c = '[' then do
      let (records, rest) ← readRecordList (2 * rest.length + 1) [] rest
      liftSyntax (readEnd rest)
      return records
    else refuse .sequence (c :: rest)

/-- The records of a record file. -/
def parseRecords (text : String) : Except (Located RecordFault) (List LogRecord) :=
  match readRecords text.toList with
  | .ok records => .ok records
  | .error stop => .error (stop.locate text.toList)

end LogSieve
