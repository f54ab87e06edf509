import ShadingExport.Decimal.Shortest

/-!
# Numerals

The written form of a number in a document: an optional minus sign, a whole part without leading
zeros, an optional fraction and an optional exponent. `Numeral.parse?` accepts exactly that grammar,
and `Numeral.toFloat?` gives the nearest double, or nothing where the magnitude overflows.
-/

namespace ShadingExport.Decimal

/-- A written number: `significand · 10^exponent`, negated if `negative`. -/
structure Numeral where
  /-- The numeral starts with a minus sign. -/
  negative : Bool
  /-- All digits of the whole part and of the fraction. -/
  significand : Nat
  /-- The written exponent less the number of digits in the fraction. -/
  exponent : Int
  /-- The numeral has neither a fraction nor an exponent. -/
  integral : Bool
  deriving DecidableEq, Repr

/-- The number that a run of decimal digits writes. -/
def digitsValue (digits : List Char) : Nat :=
  Nat.ofDigitChars 10 digits 0

/-- A whole part: one digit, or several of which the first is not zero. -/
def isWholePart : List Char → Bool
  | [] => false
  | [_] => true
  | first :: _ => first != '0'

/-- The digits of a fraction and the text after it; a point needs a digit behind it. -/
def readFraction? : List Char → Option (List Char × List Char)
  | '.' :: rest =>
    let digits := rest.takeWhile Char.isDigit
    if digits.isEmpty then none else some (digits, rest.dropWhile Char.isDigit)
  | rest => some ([], rest)

/-- The value of an exponent that ends the text: a mark, an optional sign and digits. Without a
mark the text has to end here and the exponent is absent. -/
def readExponent? : List Char → Option (Option Int)
  | [] => some none
  | mark :: rest =>
    if mark != 'e' && mark != 'E' then none
    else
      let (negative, digits) := match rest with
        | '-' :: digits => (true, digits)
        | '+' :: digits => (false, digits)
        | digits => (false, digits)
      if digits.isEmpty || !digits.all Char.isDigit then none
      else
        let size : Int := digitsValue digits
        some (some (if negative then -size else size))

/-- Reads a numeral without its sign. -/
def Numeral.parseUnsigned? (negative : Bool) (text : List Char) : Option Numeral := do
  let whole := text.takeWhile Char.isDigit
  guard (isWholePart whole)
  let (fraction, rest) ← readFraction? (text.dropWhile Char.isDigit)
  let written ← readExponent? rest
  return {
    negative
    significand := digitsValue (whole ++ fraction)
    exponent := written.getD 0 - fraction.length
    integral := fraction.isEmpty && written.isNone }

/-- Reads a numeral that is the whole text. -/
def Numeral.parse? : List Char → Option Numeral
  | '-' :: rest => parseUnsigned? true rest
  | text => parseUnsigned? false text

/-- The nearest double of a magnitude `significand · 10^exponent`. Magnitudes from `10^310` up
overflow and those below `10^-331` round to zero, whatever the digits; between these bounds the
digits decide. -/
def magnitudeToFloat? (significand : Nat) (exponent : Int) : Option Float :=
  -- Bounding the exponent first keeps the powers of ten small.
  let leading := exponent + digitCount significand
  if significand = 0 || leading < -330 then some 0.0
  else if leading > 310 then none
  else
    let value := Float.ofScientific significand (exponent < 0) exponent.natAbs
    if value.isFinite then some value else none

/-- The nearest double of a numeral; none where its magnitude overflows. Zero keeps its sign. -/
def Numeral.toFloat? (numeral : Numeral) : Option Float :=
  (magnitudeToFloat? numeral.significand numeral.exponent).map fun magnitude =>
    if numeral.negative then -magnitude else magnitude

/-- The integer that an integral numeral writes. -/
def Numeral.toInt (numeral : Numeral) : Int :=
  if numeral.negative then -numeral.significand else numeral.significand

/-- The nearest double of an integer within 64-bit range. -/
def ofInt (value : Int) : Float :=
  let magnitude := Float.ofScientific value.natAbs false 0
  if value < 0 then -magnitude else magnitude

end ShadingExport.Decimal
