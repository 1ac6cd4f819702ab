/-!
# Faults of JSON text

Why a text is not JSON and where. A reader stops with a cause and the number of bytes that it has
left unread; only at the end is that turned into a line and a column.
-/

namespace LogSieve.Json

/-- Why a text is not JSON. -/
inductive SyntaxFault where
  /-- The text ends where a value is needed. -/
  | endInValue
  /-- The text ends inside a list. -/
  | endInList
  /-- The text ends inside an object. -/
  | endInObject
  /-- The text ends inside a string. -/
  | endInString
  /-- No value starts here. -/
  | expectedValue
  /-- A word that starts like `null`, `true` or `false` goes on otherwise. -/
  | expectedIdent
  /-- No colon follows a key. -/
  | expectedColon
  /-- Neither comma nor closing bracket follows an item. -/
  | expectedCommaOrBracket
  /-- Neither comma nor closing brace follows an entry. -/
  | expectedCommaOrBrace
  /-- A key does not start with a quote. -/
  | keyNotString
  /-- A closing bracket follows a comma. -/
  | trailingComma
  /-- Something follows the value. -/
  | trailingCharacters
  /-- A number has a leading zero, or no digit where one must be. -/
  | invalidNumber
  /-- A number is too large for a double. -/
  | numberOutOfRange
  /-- No such escape. -/
  | invalidEscape
  /-- A control character stands in a string. -/
  | controlCharacter
  /-- No second escape follows the first half of a surrogate pair. -/
  | missingSurrogate
  /-- Half a surrogate pair stands alone. -/
  | loneSurrogate
  /-- Too many brackets are open. -/
  | tooDeep
deriving DecidableEq

/-- The fault in words. -/
def SyntaxFault.message : SyntaxFault → String
  | .endInValue => "EOF while parsing a value"
  | .endInList => "EOF while parsing a list"
  | .endInObject => "EOF while parsing an object"
  | .endInString => "EOF while parsing a string"
  | .expectedValue => "expected value"
  | .expectedIdent => "expected ident"
  | .expectedColon => "expected `:`"
  | .expectedCommaOrBracket => "expected `,` or `]`"
  | .expectedCommaOrBrace => "expected `,` or `\x7d`"
  | .keyNotString => "key must be a string"
  | .trailingComma => "trailing comma"
  | .trailingCharacters => "trailing characters"
  | .invalidNumber => "invalid number"
  | .numberOutOfRange => "number out of range"
  | .invalidEscape => "invalid escape"
  | .controlCharacter => "control character (\\u0000-\\u001F) found while parsing a string"
  | .missingSurrogate => "unexpected end of hex escape"
  | .loneSurrogate => "lone leading surrogate in hex escape"
  | .tooDeep => "recursion limit exceeded"

/-! ### Where a reader stops -/

/-- The number of bytes of a text. -/
def bytes (text : List Char) : Nat := text.foldl (fun n c => n + c.utf8Size) 0

/-- A cause, and the number of bytes that were not read when it was found. -/
structure Stop (ε : Type) where
  /-- Why reading stops. -/
  cause : ε
  /-- How many bytes are left. -/
  left : Nat

/-- What a reader gives: a result, most often a value and the rest of the text, or a cause to
stop. -/
abbrev Reading (ε : Type) := Except (Stop ε)

/-- Stops before the rest of the text. -/
def stopAt {ε α : Type} (cause : ε) (rest : List Char) : Reading ε α :=
  .error ⟨cause, bytes rest⟩

/-- Stops at the first byte of the rest of the text, which counts as read if there is one. -/
def stopIn {ε α : Type} (cause : ε) (rest : List Char) : Reading ε α :=
  .error ⟨cause, bytes rest - 1⟩

/-! ### Lines and columns -/

/-- A place in a text. -/
structure Position where
  /-- The line, from 1. -/
  line : Nat
  /-- How many bytes of the line lie before the place. -/
  column : Nat
deriving DecidableEq

/-- The place that lies `count` bytes behind `position`, where `text` goes on. -/
def Position.advance (position : Position) : Nat → List Char → Position
  | _, [] => position
  | count, c :: rest =>
    if count = 0 then position
    else if c = '\n' then advance ⟨position.line + 1, 0⟩ (count - 1) rest
    else
      advance { position with column := position.column + min count c.utf8Size }
        (count - c.utf8Size) rest

/-- A cause with its place. -/
structure Located (ε : Type) where
  /-- Why the text was refused. -/
  cause : ε
  /-- Up to where it was read. -/
  position : Position
deriving DecidableEq

/-- Where in the text a reader stopped. -/
def Stop.locate {ε : Type} (stop : Stop ε) (text : List Char) : Located ε :=
  ⟨stop.cause, Position.advance ⟨1, 0⟩ (bytes text - stop.left) text⟩

/-- The cause in words, with its place. -/
def Located.message {ε : Type} (fault : Located ε) (words : ε → String) : String :=
  words fault.cause ++ " at line " ++ toString fault.position.line ++ " column " ++
    toString fault.position.column

end LogSieve.Json
