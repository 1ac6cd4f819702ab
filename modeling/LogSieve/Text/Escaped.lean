import LogSieve.Text.Mark
import LogSieve.Text.Unassigned

/-!
# Escaped text

A text between double quotes in which only visible characters stand as they are. The quote, the
backslash and some control characters have an escape of one letter; other control characters,
blanks other than the space, characters without a shape, characters that combine with their
neighbour, characters of private use and code points without a character are given by their number
in hexadecimal.
-/

namespace LogSieve.Text

/-- Control characters, line and paragraph separators, and characters of private use. -/
def unprintables : Ranges := [
  (0x0, 0x1F), (0x7F, 0x9F), (0x2028, 0x2029), (0xE000, 0xF8FF), (0xF0000, 0xFFFFD),
  (0x100000, 0x10FFFD)]

/-- Is the character visible, or the space? -/
def isVisible (c : Char) : Bool :=
  (0x20 ≤ c.toNat && c.toNat ≤ 0x7E) || !(nonspacingMarks.has c || enclosingMarks.has c ||
    extenders.has c || formatCharacters.has c || ignorables.has c || spaceSeparators.has c ||
    unprintables.has c || unassigned.has c)

/-- A character as it is written in an escaped text. -/
def escapeVisible (c : Char) : List Char :=
  if c = '"' then ['\\', '"']
  else if c = '\\' then ['\\', '\\']
  else if c = '\n' then ['\\', 'n']
  else if c = '\r' then ['\\', 'r']
  else if c = '\t' then ['\\', 't']
  else if c = '\x00' then ['\\', '0']
  else if isVisible c then [c]
  else '\\' :: 'u' :: '{' :: (Nat.toDigits 16 c.toNat ++ ['}'])

/-- The text between double quotes, with escapes for all that is not visible. -/
def escaped (text : String) : String :=
  String.ofList ('"' :: (text.toList.flatMap escapeVisible ++ ['"']))

end LogSieve.Text
