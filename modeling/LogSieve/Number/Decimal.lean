import LogSieve.Number.Double

/-!
# Decimal text of doubles

A double is written with the fewest digits that read back to it; among those the digits nearest to
its value, on a tie the even ones. `shortest` selects the digits, `render` lays them out.
-/

namespace LogSieve.Double

/-- A decimal number `digits * 10 ^ exponent`. -/
structure Decimal where
  /-- The digits as one number. -/
  digits : Nat
  /-- The power of ten that the last digit counts. -/
  exponent : Int
deriving DecidableEq

/-- The number of decimal digits. -/
def digitCount (n : Nat) : Nat := (Nat.toDigits 10 n).length

/-! ### Which digits -/

/-- Is the gap to the next smaller magnitude half the gap to the next larger one? It is at powers
of two, except at the least exponent. -/
def narrowBelow (x : Double) : Bool := x.rank % (1 <<< 52) == 0 && x.rank >>> 52 > 1

/-- Does `numeral / scale` round to the magnitude of `x`? Both ends of the interval belong to it
exactly when the significand is even. `x.units` is compared with the numeral in quarters of its
last place. -/
def readsBack (x : Double) (numeral scale : Nat) : Bool :=
  let middle := 4 * x.significand
  let low := ((middle - if x.narrowBelow then 1 else 2) <<< x.exponent) * scale
  let high := ((middle + 2) <<< x.exponent) * scale
  let value := 4 * numeral
  if x.significand % 2 = 0 then low ≤ value && value ≤ high else low < value && value < high

/-- The least `k` such that the magnitude is below `10 ^ k`, for a magnitude other than zero. -/
def decimalScale (x : Double) : Int :=
  if unitsOfOne ≤ x.units then digitCount (x.units / unitsOfOne)
  else 1 - digitCount ((unitsOfOne - 1) / x.units)

/-- A decimal on the grid of multiples of `10 ^ place` that reads back as `x`, if there is one: of
the two neighbours of the value the nearer that does. -/
def onGrid? (x : Double) (place : Int) : Option Decimal :=
  let above := Nat.pow 10 place.toNat * unitsOfOne
  let below := Nat.pow 10 (-place).toNat
  let value := x.units * below
  let floor := value / above
  let fits := fun n => x.readsBack (n * above) below
  let ceilFirst :=
    match compare (2 * (value % above)) above with
    | .lt => false
    | .gt => true
    | .eq => floor % 2 == 1
  let order := if ceilFirst then [floor + 1, floor] else [floor, floor + 1]
  (order.find? fits).map (⟨·, place⟩)

/-- Zeros at the end of the digits moved into the exponent. -/
def Decimal.strip : Nat → Decimal → Decimal
  | 0, d => d
  | fuel + 1, d =>
    if d.digits % 10 = 0 then strip fuel ⟨d.digits / 10, d.exponent + 1⟩ else d

/-- The shortest decimal that reads back as `x`, for a magnitude other than zero. Seventeen digits
always suffice; the exact value stands for a search without a result. -/
def shortest (x : Double) : Decimal :=
  let scale := x.decimalScale
  let found := (List.range 17).findSome? fun (n : Nat) => x.onGrid? (scale - (n + 1))
  (found.getD ⟨x.units * Nat.pow 5 1074, -1074⟩).strip 20

/-! ### How they are laid out -/

/-- A run of zeros. -/
def zeros (n : Nat) : List Char := List.replicate n '0'

/-- Magnitudes from 10^-5 up to, but not including, 10^16 are written positionally, with at least
one digit on either side of the point. All others are written with one digit before the point, a
fraction only if it has a digit, and an exponent with its sign. -/
def Decimal.layout (d : Decimal) : List Char :=
  let digits := Nat.toDigits 10 d.digits
  let point := digits.length + d.exponent
  if -5 < point && point ≤ 16 then
    if point ≤ 0 then '0' :: '.' :: (zeros (-point).toNat ++ digits)
    else if digits.length ≤ point then
      digits ++ zeros (point - digits.length).toNat ++ ['.', '0']
    else digits.take point.toNat ++ '.' :: digits.drop point.toNat
  else
    let fraction := digits.drop 1
    let sign := if point - 1 < 0 then '-' else '+'
    digits.take 1 ++ (if fraction.isEmpty then [] else '.' :: fraction) ++
      'e' :: sign :: Nat.toDigits 10 (point - 1).natAbs

/-- The text of a double. -/
def render (x : Double) : String :=
  let magnitude := if x.rank = 0 then ['0', '.', '0'] else x.shortest.layout
  String.ofList (if x.negative then '-' :: magnitude else magnitude)

end LogSieve.Double
