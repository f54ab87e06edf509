import ShadingExport.Decimal.Shortest

/-!
# Decimal notation of doubles

A double is written with its shortest digits. Between `10^-5` and `10^16` it is written
positionally and keeps at least one place (`1.0`, `0.00001`); outside, as one digit, the remaining
digits after a point, and a signed exponent (`1e+16`, `1.5e-9`). Which exponents are positional is
one value, `positional`.
-/

namespace ShadingExport.Decimal

/-- The digits of a decimal without trailing zeros, and the exponent of the first of them. -/
structure Significant where
  /-- The digits, the first and the last of which are not zero. -/
  digits : List Char
  /-- The power of ten of the first digit. -/
  leading : Int
  deriving DecidableEq, Repr

/-- Strips the trailing zeros of the digits. -/
def Scaled.significant (decimal : Scaled) : Significant :=
  let digits := Nat.toDigits 10 decimal.digits
  { digits := (digits.reverse.dropWhile (· == '0')).reverse
    leading := decimal.exponent + digits.length - 1 }

/-- The exponents of the first digit, from the first one up to but not including the second, that
are written positionally. -/
def positional : Int × Int := (-5, 16)

/-- Positional notation: zeros fill the gap between the digits and the point, and there is at
least one digit on either side of the point. -/
def Significant.positionalText (number : Significant) : String :=
  if number.leading < 0 then
    "0." ++ String.ofList (List.replicate (-number.leading - 1).toNat '0' ++ number.digits)
  else
    let whole := number.leading.toNat + 1
    let before := number.digits.take whole
    let filled := before ++ List.replicate (whole - before.length) '0'
    let after := number.digits.drop whole
    String.ofList filled ++ "." ++ (if after.isEmpty then "0" else String.ofList after)

/-- Scientific notation: one digit, the others after a point, and the exponent with its sign. -/
def Significant.scientificText (number : Significant) : String :=
  let after := number.digits.drop 1
  String.ofList (number.digits.take 1)
    ++ (if after.isEmpty then "" else "." ++ String.ofList after)
    ++ (if number.leading < 0 then "e-" else "e+")
    ++ toString number.leading.natAbs

/-- Positional notation where `positional` says so, scientific notation elsewhere. -/
def Significant.text (number : Significant) : String :=
  if positional.1 ≤ number.leading && number.leading < positional.2 then number.positionalText
  else number.scientificText

/-- The text of a finite double; zero keeps its sign. -/
def text (value : Float) : String :=
  let bits := value.toBits
  let sign := if bits.toNat / Nat.pow 2 63 = 1 then "-" else ""
  let magnitude := Binary.ofBits bits
  if magnitude.significand = 0 then sign ++ "0.0"
  else sign ++ magnitude.shortest.significant.text

end ShadingExport.Decimal
