/-!
# The engine of regular expressions

Patterns are run as regular expressions. The engine that runs them refuses an expression whose
program would take more memory than a limit. How much a program takes is the engine's own affair:
the library is written for any engine, and what it says of patterns holds whatever the engine
refuses.
-/

namespace LogSieve

/-- An engine of regular expressions. -/
class RegexEngine where
  /-- Is the program of the expression larger than `RegexEngine.sizeLimit`? Such an expression is
  refused. -/
  tooLarge : String → Bool

namespace RegexEngine

/-- The memory that the program of an expression may take, in bytes. -/
def sizeLimit : Nat := 10485760

/-- The memory that a sign of an expression adds to its program, in bytes. A point stands for any
character and takes the most by far. -/
def signBytes (c : Char) : Nat := if c = '.' then 964 else 32 * c.utf8Size

/-- The engine that the program is run with, as far as sizes go: it estimates the size of a program by
what the signs of its expression take. -/
instance summing : RegexEngine where
  tooLarge expression :=
    sizeLimit < expression.toList.foldl (fun size c => size + signBytes c) 0

end RegexEngine

end LogSieve
