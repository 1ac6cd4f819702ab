import LogSieve.Filter.Engine
import LogSieve.Filter.Like
import LogSieve.Text.Case

/-!
# Tests of texts

What the operators for patterns ask of a text. `like` takes a pattern as it is. `ilike` disregards
case: a pattern with a `%` fits the whole text, and any other fits anywhere in it. A pattern
without special characters is looked up as it stands, in the lower case of the text.
-/

namespace LogSieve

/-- A test of a text. -/
inductive TextTest where
  /-- The lower case of the text contains `needle`, which is in lower case itself. -/
  | contains (needle : List Char)
  /-- The tokens fit the text. -/
  | fits (ignoreCase : Bool) (tokens : List LikeToken)
deriving DecidableEq

namespace TextTest

variable [RegexEngine]

/-- The test for a sequence of tokens, unless the engine refuses its expression. -/
def ofTokens? (ignoreCase : Bool) (tokens : List LikeToken) : Option TextTest :=
  if RegexEngine.tooLarge (LikeToken.expression ignoreCase tokens) then none
  else some (fits ignoreCase tokens)

/-- The test for a LIKE pattern. -/
def like? (pattern : String) : Option TextTest :=
  ofTokens? false (LikeToken.ofPattern pattern.toList)

/-- Does the character mean more than itself in a LIKE pattern? -/
def isSpecial (c : Char) : Bool := c = '%' || c = '_' || c = '\\'

/-- Does a `%` stand in the pattern that no backslash precedes as its escape? -/
def hasAnyRun : List Char → Bool
  | [] => false
  | c :: rest =>
    if c = '\\' then
      match rest with
      | [] => false
      | _ :: rest => hasAnyRun rest
    else c = '%' || hasAnyRun rest

/-- Is the number of backslashes at the end odd, so that the last of them escapes nothing? -/
def endsInEscape (pattern : List Char) : Bool :=
  (pattern.reverse.takeWhile (· = '\\')).length % 2 == 1

/-- The pattern that fits wherever the given one fits a part of the text. -/
def anywhere (pattern : List Char) : List Char :=
  '%' :: (pattern ++ (if endsInEscape pattern then ['\\', '%'] else ['%']))

/-- The test for a pattern whose case does not count. -/
def ilike? (pattern : String) : Option TextTest :=
  let chars := pattern.toList
  if !chars.any isSpecial then some (contains (Text.toLower chars))
  else ofTokens? true (LikeToken.ofPattern (if hasAnyRun chars then chars else anywhere chars))

/-- Is `needle` a contiguous part of the text? -/
def occursIn (needle : List Char) : List Char → Bool
  | [] => needle.isEmpty
  | c :: rest => needle.isPrefixOf (c :: rest) || occursIn needle rest

/-- Does the text pass the test? -/
def accepts : TextTest → String → Bool
  | contains needle, text => occursIn needle (Text.toLower text.toList)
  | fits false tokens, text => LikeToken.fits tokens text.toList
  | fits true tokens, text =>
    LikeToken.fits (tokens.map (LikeToken.mapLiteral Text.fold)) (text.toList.map Text.fold)

/-- The test as a regular expression, with its modes. None for a test that is no pattern. -/
def regex? : TextTest → Option String
  | contains _ => none
  | fits ignoreCase tokens => some (LikeToken.expression ignoreCase tokens)

end TextTest

end LogSieve
