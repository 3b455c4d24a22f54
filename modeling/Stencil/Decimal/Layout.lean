import Stencil.Decimal.Shortest

/-!
# Setting the digits of a double

A `Layout` is the set of decisions that turns the shortest digits of a double into text: which
exponents are written positionally, whether an integral value shows a fraction, whether an exponent
shows a plus sign. With `e` the exponent of the first digit, the positional forms are `1200`, `1.2`
and `0.0012`; all other values are written as `1.2e+30` or `1.2e30`, and `1.2e-30`.
-/

namespace Stencil

/-- The decisions by which a number format sets its digits. -/
structure Layout where
  /-- Whether a number whose first digit has this exponent is written positionally. -/
  positional : Int → Bool
  /-- Integral values in positional form end in `.0`. -/
  fraction : Bool
  /-- An exponent that is not negative has a plus sign. -/
  plus : Bool
  /-- Which of two equally close shortest decimals is written. -/
  tie : Tie

namespace Decimal

/-- The decimal digits of the coefficient, most significant first. -/
def digits (decimal : Decimal) : List Char :=
  Nat.toDigits 10 decimal.coefficient

/-- The exponent of the first digit. -/
def leading (decimal : Decimal) : Int :=
  decimal.exponent + (decimal.digits.length : Int) - 1

/-- Digits with the point at its place: the first digit has the exponent `leading`. -/
def setPositional (fraction : Bool) (digits : List Char) (leading : Int) : List Char :=
  if leading < 0 then
    '0' :: '.' :: (List.replicate (-leading - 1).toNat '0' ++ digits)
  else
    let whole := leading.toNat + 1
    if digits.length ≤ whole then
      digits ++ List.replicate (whole - digits.length) '0' ++ if fraction then ['.', '0'] else []
    else digits.take whole ++ '.' :: digits.drop whole

/-- Digits with the point behind the first one, unless there is no other. -/
def significand : List Char → List Char
  | first :: second :: rest => first :: '.' :: second :: rest
  | short => short

/-- Digits with the point behind the first one and an exponent. -/
def setScientific (plus : Bool) (digits : List Char) (leading : Int) : List Char :=
  let sign := if leading < 0 then ['-'] else if plus then ['+'] else []
  significand digits ++ 'e' :: (sign ++ Nat.toDigits 10 leading.natAbs)

end Decimal

namespace Layout

/-- The text of a decimal. -/
def setDecimal (layout : Layout) (decimal : Decimal) : List Char :=
  if layout.positional decimal.leading then
    Decimal.setPositional layout.fraction decimal.digits decimal.leading
  else Decimal.setScientific layout.plus decimal.digits decimal.leading

/-- The text of a positive or zero magnitude. -/
def setMagnitude (layout : Layout) (binary : Binary) : List Char :=
  layout.setDecimal (if binary.mantissa = 0 then ⟨0, 0⟩ else binary.shortest layout.tie)

/-- The text of a double; zero has a sign, too. Values that are not finite have fixed names. -/
def set (layout : Layout) (number : Float) : List Char :=
  let bits := number.toBits
  let magnitude := bits &&& 0x7FFFFFFFFFFFFFFF
  let minus := if bits = magnitude then [] else ['-']
  if 0x7FF0000000000000 < magnitude then "NaN".toList
  else if magnitude = 0x7FF0000000000000 then minus ++ "inf".toList
  else minus ++ layout.setMagnitude (Binary.ofBits magnitude)

/-- Every exponent is written positionally and nothing is added to an integral value. -/
def plain : Layout where
  positional _ := true
  fraction := false
  plus := false
  tie := .up

/-- No exponent is written positionally, and none has a plus sign. -/
def scientific : Layout where
  positional _ := false
  fraction := false
  plus := false
  tie := .up

end Layout

end Stencil
