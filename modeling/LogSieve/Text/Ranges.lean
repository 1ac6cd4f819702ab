/-!
# Ranges of code points

Properties of characters are given as lists of closed ranges of code points, ascending and apart,
and asked with `Ranges.has`.
-/

namespace LogSieve.Text

/-- Closed ranges of code points. -/
def Ranges := List (Nat × Nat)

/-- Does the character lie in one of the ranges? -/
def Ranges.has (ranges : Ranges) (c : Char) : Bool :=
  List.any ranges fun r => r.1 ≤ c.toNat && c.toNat ≤ r.2

end LogSieve.Text
