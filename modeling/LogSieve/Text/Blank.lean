import LogSieve.Text.Ranges

/-!
# White space

The characters with the property White_Space, and the removal of white space at the two ends of a
text.
-/

namespace LogSieve.Text

/-- The 25 characters with the property White_Space. -/
def blanks : Ranges := [
  (0x9, 0xD), (0x20, 0x20), (0x85, 0x85), (0xA0, 0xA0), (0x1680, 0x1680), (0x2000, 0x200A),
  (0x2028, 0x2029), (0x202F, 0x202F), (0x205F, 0x205F), (0x3000, 0x3000)]

/-- Is the character white space? -/
def isBlank (c : Char) : Bool := blanks.has c

/-- The text without the white space at its start. -/
def trimStart (text : List Char) : List Char := text.dropWhile isBlank

/-- The text without the white space at its two ends. -/
def trim (text : List Char) : List Char := (trimStart (trimStart text).reverse).reverse

end LogSieve.Text
