/-!
# Shortest decimals

A finite positive double `m · 2^q` is the rounding of every real number in an interval around it.
`shortest` finds a decimal in that interval with the fewest digits and, among those, the nearest to
the double itself. It works on exact natural numbers: for one, two, … seventeen digits it looks at
the two neighbours of the value on the decimal grid of that width, and the first grid with a
neighbour inside the interval decides.
-/

namespace ShadingExport.Decimal

/-- A positive binary fraction `significand · 2^exponent` with the interval that rounds to it. -/
structure Binary where
  /-- The integer significand. -/
  significand : Nat
  /-- The power of two that scales the significand. -/
  exponent : Int
  /-- The gap below is half the gap above: the significand is the least of its binade. -/
  narrowBelow : Bool
  deriving DecidableEq, Repr

/-- A decimal `digits · 10^exponent`. -/
structure Scaled where
  /-- The integer significand. -/
  digits : Nat
  /-- The power of ten that scales the digits. -/
  exponent : Int
  deriving DecidableEq, Repr

/-- The magnitude of a finite double as a binary fraction; the sign bit is ignored. -/
def Binary.ofBits (bits : UInt64) : Binary :=
  let fraction : Nat := bits.toNat % Nat.pow 2 52
  let biased : Nat := bits.toNat / Nat.pow 2 52 % Nat.pow 2 11
  if biased = 0 then ⟨fraction, -1074, false⟩
  else ⟨fraction + Nat.pow 2 52, (biased : Int) - 1075, fraction = 0 && biased > 1⟩

/-- The value, its interval and one grid step, all over one common denominator, for the decimal
grid of step `10^step`. Quarter units of the significand make the interval's ends whole. -/
structure Ruler where
  /-- The binary fraction. -/
  value : Nat
  /-- The lower end of the interval that rounds to the value. -/
  low : Nat
  /-- The upper end of the interval that rounds to the value. -/
  high : Nat
  /-- One step of the decimal grid. -/
  unit : Nat
  /-- The ends themselves round to the value. -/
  closed : Bool
  deriving DecidableEq, Repr

/-- The ruler of a binary fraction for the decimal grid of step `10^step`. -/
def Binary.ruler (fraction : Binary) (step : Int) : Ruler :=
  let quarter := fraction.exponent - 2
  let scale := Nat.pow 2 quarter.toNat * Nat.pow 10 (-step).toNat
  let below := if fraction.narrowBelow then 1 else 2
  { value := 4 * fraction.significand * scale
    low := (4 * fraction.significand - below) * scale
    high := (4 * fraction.significand + 2) * scale
    unit := Nat.pow 10 step.toNat * Nat.pow 2 (-quarter).toNat
    closed := fraction.significand % 2 = 0 }

/-- The `count`-th point of the grid lies in the interval that rounds to the value. -/
def Ruler.holds (ruler : Ruler) (count : Nat) : Bool :=
  let point := count * ruler.unit
  if ruler.closed then ruler.low ≤ point && point ≤ ruler.high
  else ruler.low < point && point < ruler.high

/-- The grid point in the interval that is nearest to the value, if one of the value's two
neighbours on the grid lies there; of two equally near ones, the even one. -/
def Ruler.nearest? (ruler : Ruler) : Option Nat :=
  let lower := ruler.value / ruler.unit
  let upper := lower + 1
  match ruler.holds lower, ruler.holds upper with
  | false, false => none
  | true, false => some lower
  | false, true => some upper
  -- Both neighbours round to the value: the nearer one, and of two equally near the even one.
  | true, true =>
    let fromLower := ruler.value - lower * ruler.unit
    let fromUpper := upper * ruler.unit - ruler.value
    if fromLower < fromUpper then some lower
    else if fromUpper < fromLower then some upper
    else if lower % 2 = 0 then some lower
    else some upper

/-- The number of decimal digits of a natural number; zero has one. -/
def digitCount (number : Nat) : Nat :=
  (Nat.toDigits 10 number).length

/-- The exponent of the first significant digit of a positive fraction `numerator / denominator`:
the greatest `e` with `10^e ≤ numerator / denominator`. -/
def leadingExponent (numerator denominator : Nat) : Int :=
  if denominator ≤ numerator then (digitCount (numerator / denominator) : Int) - 1
  else
    let places := digitCount (denominator / numerator)
    if denominator ≤ numerator * Nat.pow 10 (places - 1) then 1 - (places : Int)
    else -(places : Int)

/-- The exponent of the first significant digit of a positive binary fraction. -/
def Binary.leadingExponent (fraction : Binary) : Int :=
  Decimal.leadingExponent (fraction.significand * Nat.pow 2 fraction.exponent.toNat)
    (Nat.pow 2 (-fraction.exponent).toNat)

/-- The decimal of the grid of step `10^step` that rounds to the fraction and is nearest to it. -/
def Binary.onGrid? (fraction : Binary) (step : Int) : Option Scaled :=
  (fraction.ruler step).nearest?.map (⟨·, step⟩)

/-- The decimal equal to the fraction: a negative power of two is that power of five over the
same power of ten. -/
def Binary.exact (fraction : Binary) : Scaled :=
  ⟨fraction.significand * Nat.pow 2 fraction.exponent.toNat *
      Nat.pow 5 (-fraction.exponent).toNat,
    min fraction.exponent 0⟩

/-- The shortest decimal that rounds to a positive binary fraction: the first width from one to
seventeen digits whose grid has one. Seventeen digits suffice for every double, so the exact
decimal is not reached. -/
def Binary.shortest (fraction : Binary) : Scaled :=
  let leading := fraction.leadingExponent
  ((List.range 17).findSome? fun (more : Nat) => fraction.onGrid? (leading - more)).getD
    fraction.exact

end ShadingExport.Decimal
