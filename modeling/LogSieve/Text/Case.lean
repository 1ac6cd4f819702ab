import LogSieve.Text.CaseRun
import LogSieve.Text.Letter
import LogSieve.Text.Mark

/-!
# Lower case and case folding

Two ways to disregard case. `toLower` maps a whole text to lower case, where a capital sigma at
the end of a word becomes a final sigma and a dotted capital I becomes two characters. `fold` maps
single characters to the representative of their case (simple case folding), whatever stands
around them.
-/

namespace LogSieve.Text

/-! ### Words, as the final sigma sees them -/

/-- Characters with case that are no letters of the categories Lu, Ll and Lt. -/
def otherCased : Ranges := [
  (0xAA, 0xAA), (0xBA, 0xBA), (0x2B0, 0x2B8), (0x2C0, 0x2C1), (0x2E0, 0x2E4), (0x345, 0x345),
  (0x37A, 0x37A), (0x10FC, 0x10FC), (0x1D2C, 0x1D6A), (0x1D78, 0x1D78), (0x1D9B, 0x1DBF),
  (0x2071, 0x2071), (0x207F, 0x207F), (0x2090, 0x209C), (0x2160, 0x217F), (0x24B6, 0x24E9),
  (0x2C7C, 0x2C7D), (0xA69C, 0xA69D), (0xA770, 0xA770), (0xA7F1, 0xA7F4), (0xA7F8, 0xA7F9),
  (0xAB5C, 0xAB5F), (0xAB69, 0xAB69), (0x10780, 0x10780), (0x10783, 0x10785), (0x10787, 0x107B0),
  (0x107B2, 0x107BA), (0x1E030, 0x1E06D), (0x1F130, 0x1F149), (0x1F150, 0x1F169),
  (0x1F170, 0x1F189)]

/-- Punctuation that may stand inside a word, such as the apostrophe. -/
def wordPunctuation : Ranges := [
  (0x27, 0x27), (0x2E, 0x2E), (0x3A, 0x3A), (0xB7, 0xB7), (0x387, 0x387), (0x55F, 0x55F),
  (0x5F4, 0x5F4), (0x2018, 0x2019), (0x2024, 0x2024), (0x2027, 0x2027), (0xFE13, 0xFE13),
  (0xFE52, 0xFE52), (0xFE55, 0xFE55), (0xFF07, 0xFF07), (0xFF0E, 0xFF0E), (0xFF1A, 0xFF1A)]

/-- Does the character have case (property Cased)? -/
def isCased (c : Char) : Bool := casedLetters.has c || otherCased.has c

/-- Is the character passed over when its neighbours' case is looked at (property
Case_Ignorable)? -/
def isCaseIgnorable (c : Char) : Bool :=
  nonspacingMarks.has c || enclosingMarks.has c || formatCharacters.has c ||
    modifierLetters.has c || modifierSymbols.has c || wordPunctuation.has c

/-- Is the first character that counts one with case? -/
def meetsCased (text : List Char) : Bool :=
  ((text.dropWhile isCaseIgnorable).head?.map isCased).getD false

/-- Does a character between `before` (nearest first) and `after` end a word: is there a cased
character before it and none after it? -/
def endsWord (before after : List Char) : Bool := meetsCased before && !meetsCased after

/-! ### Lower case -/

/-- The lower case of a character, whatever stands around it. -/
def lowerChar (c : Char) : List Char :=
  if c.toNat < 128 then [c.toLower]
  else if c = 'İ' then ['i', '\u0307']
  else [((mapRuns lowerRuns c.toNat).map Char.ofNat).getD c]

/-- The lower case of a text that follows `before` (nearest character first). -/
def lowerAfter (before : List Char) : List Char → List Char
  | [] => []
  | c :: after =>
    (if c = 'Σ' then [if endsWord before after then 'ς' else 'σ'] else lowerChar c) ++
      lowerAfter (c :: before) after

/-- The text in lower case. -/
def toLower (text : List Char) : List Char := lowerAfter [] text

/-! ### Case folding -/

/-- The representative of a character among those that differ from it in case only (simple case
folding). -/
def fold (c : Char) : Char :=
  if c.toNat < 128 then c.toLower
  else (((mapRuns foldRuns c.toNat).or (mapRuns lowerRuns c.toNat)).map Char.ofNat).getD c

/-! ### Case of ASCII letters alone -/

/-- The text with its ASCII letters in lower case. -/
def asciiLower (text : String) : String := String.ofList (text.toList.map Char.toLower)

end LogSieve.Text
