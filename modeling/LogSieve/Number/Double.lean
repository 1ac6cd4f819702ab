/-!
# Double-precision numbers

The finite numbers of the binary64 format, as a sign and the rank of the magnitude: magnitudes are
counted from zero upward, so that the order of magnitudes is the order of ranks. Every operation is
computed exactly on natural numbers and rounded once, to the nearest double and on a tie to the
one of even rank.
-/

namespace LogSieve

/-- A finite binary64 number. -/
structure Double where
  /-- Is the sign minus? Zero has both signs. -/
  negative : Bool
  /-- How many finite magnitudes are smaller than this one. -/
  rank : Nat
  /-- There are 2047 exponents with 2^52 significands each. -/
  rank_lt : rank < 2047 <<< 52
deriving DecidableEq

namespace Double

/-- The zero of positive sign. -/
def zero : Double := ⟨false, 0, by decide⟩

instance : Inhabited Double := ⟨zero⟩

/-- The number with the given sign and rank; beyond the last rank the greatest one. -/
def ofRank (negative : Bool) (rank : Nat) : Double :=
  if h : rank < 2047 <<< 52 then ⟨negative, rank, h⟩ else ⟨negative, (2047 <<< 52) - 1, by decide⟩

/-- The number with the opposite sign. -/
def neg (x : Double) : Double := { x with negative := !x.negative }

/-! ### Magnitudes as natural numbers

The least positive double is 2^-1074, and every magnitude is a multiple of it. -/

/-- How many of the least positive doubles make 1. -/
def unitsOfOne : Nat := 1 <<< 1074

/-- The binary exponent of a magnitude, where zero is that of the least positive double. -/
def exponent (x : Double) : Nat := (x.rank >>> 52) - 1

/-- The significand of a magnitude, below 2^53. -/
def significand (x : Double) : Nat := x.rank - (x.exponent <<< 52)

/-- The magnitude, counted in least positive doubles. -/
def units (x : Double) : Nat := x.significand <<< x.exponent

/-- The quotient rounded to a natural number; a tie goes to the even one. -/
def roundDiv (num den : Nat) : Nat :=
  let quotient := num / den
  match compare (2 * (num % den)) den with
  | .lt => quotient
  | .gt => quotient + 1
  | .eq => if quotient % 2 = 0 then quotient else quotient + 1

/-- The rank of the magnitude nearest to `num / den` least positive doubles. It is not bounded: a
rank outside the type means that the quotient is too large for a finite double. -/
def nearestRank (num den : Nat) : Nat :=
  let exponent := (num / den).log2 - 52
  (exponent <<< 52) + roundDiv num (den <<< exponent)

/-- The double nearest to `num / den` least positive doubles, if it is finite. -/
def nearest? (negative : Bool) (num den : Nat) : Option Double :=
  let rank := nearestRank num den
  if h : rank < 2047 <<< 52 then some ⟨negative, rank, h⟩ else none

/-- The double nearest to a natural number; beyond the greatest finite one that one. -/
def ofNat (n : Nat) : Double := ofRank false (nearestRank (n * unitsOfOne) 1)

/-- The double nearest to an integer. -/
def ofInt (n : Int) : Double := { ofNat n.natAbs with negative := decide (n < 0) }

/-- The product, if it is finite. -/
def mul? (x y : Double) : Option Double :=
  nearest? (x.negative != y.negative) (x.units * y.units) unitsOfOne

/-- The quotient, for a divisor other than zero and at least 1 in magnitude. -/
def div (x y : Double) : Double :=
  ofRank (x.negative != y.negative) (nearestRank (x.units * unitsOfOne) y.units)

/-! ### Order -/

/-- The place of a double in the order by value, where both zeros are one. -/
def valueKey (x : Double) : Int := if x.negative then -x.rank else x.rank

/-- The place of a double in the total order, where the negative zero comes before the positive
one. -/
def totalKey (x : Double) : Int := if x.negative then -(x.rank + 1) else x.rank

/-- Comparison by value. -/
def compareValue (x y : Double) : Ordering := compare x.valueKey y.valueKey

/-- Comparison in the total order. -/
def compareTotal (x y : Double) : Ordering := compare x.totalKey y.totalKey

/-- Equality by value: the two zeros are equal. -/
def sameValue (x y : Double) : Bool := x.valueKey == y.valueKey

/-! ### Decimal numerals -/

/-- The double nearest to a power of ten, for exponents up to 308. -/
def powerOfTen (k : Nat) : Double := ofNat (Nat.pow 10 k)

/-- The double that a decimal `significand * 10 ^ exponent` is read as, for significands of at most
64 bits: the significand is rounded to a double, and the product or quotient with the power of
ten, itself rounded to a double, is rounded once more. Powers beyond 10^308 are divided by in two
steps. None if the result is not finite. -/
def ofScaled? (negative : Bool) (significand : Nat) (exponent : Int) : Option Double :=
  let magnitude := ofNat significand
  let scaled :=
    match exponent with
    | .ofNat k =>
      if k ≤ 308 then magnitude.mul? (powerOfTen k)
      else if significand = 0 then some zero else none
    | .negSucc k =>
      if k < 308 then some (magnitude.div (powerOfTen (k + 1)))
      else if k < 616 then
        some ((magnitude.div (powerOfTen 308)).div (powerOfTen (k + 1 - 308)))
      else some zero
  scaled.map fun x => { x with negative }

/-- The double nearest to the decimal `digits * 10 ^ exponent`, if it is finite. `digits` has
`length` decimal digits; it decides without a computation that a value is too large or vanishes. -/
def ofDecimal? (negative : Bool) (digits length : Nat) (exponent : Int) : Option Double :=
  if digits = 0 then some { zero with negative }
  else if exponent + length > 400 then none
  else if exponent + length < -400 then some { zero with negative }
  else
    match exponent with
    | .ofNat k => nearest? negative (digits * Nat.pow 10 k * unitsOfOne) 1
    | .negSucc k => nearest? negative (digits * unitsOfOne) (Nat.pow 10 (k + 1))

end Double

end LogSieve
