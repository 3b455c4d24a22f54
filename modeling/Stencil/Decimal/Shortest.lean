/-!
# The fewest digits that identify a binary fraction

A finite double stands for every real number that rounds to it. `Binary.shortest` selects, among
the decimals with the fewest digits that stand for a given double, the one closest to it. All
comparisons are exact, on natural numbers: a grid of decimals and the ends of the rounding interval
are brought to a common unit.
-/

namespace Stencil

/-- A power of a natural number; a negative power counts as none, and is one. -/
def raise (base : Nat) (power : Int) : Nat :=
  Nat.pow base power.toNat

/-- The number `coefficient * 10 ^ exponent`. -/
structure Decimal where
  /-- The digits, read as one natural number. -/
  coefficient : Nat
  /-- The power of ten they are counted in. -/
  exponent : Int
  deriving DecidableEq, Repr

/-- Which of two equally close decimals is selected. -/
inductive Tie where
  /-- The one whose last digit is even. -/
  | even
  /-- The greater one. -/
  | up
  deriving DecidableEq, Repr

/-- The non-negative number `mantissa * 2 ^ exponent`, one value of a binary format. -/
structure Binary where
  /-- The significant bits, read as one natural number. -/
  mantissa : Nat
  /-- The power of two they are counted in. -/
  exponent : Int
  /-- The value below is half as far away as the value above. -/
  narrowBelow : Bool
  deriving DecidableEq, Repr

namespace Binary

/-- The magnitude held by the bits of a finite double. -/
def ofBits (bits : UInt64) : Binary :=
  let biased := ((bits >>> 52) &&& 0x7FF).toNat
  let fraction := (bits &&& 0xFFFFFFFFFFFFF).toNat
  if biased = 0 then ⟨fraction, -1074, false⟩
  else ⟨0x10000000000000 + fraction, (biased : Int) - 1075, fraction = 0 && 1 < biased⟩

/-- Whether a value lies below a power of ten. -/
def below (value : Binary) (power : Int) : Bool :=
  value.mantissa * raise 2 value.exponent * raise 10 (-power) <
    raise 10 power * raise 2 (-value.exponent)

/--
The least power of ten above a positive value. The binary logarithm gives an estimate that is at
most two too small, and exact comparisons settle the rest.
-/
def scale (value : Binary) : Int :=
  let estimate := ((value.mantissa.log2 : Int) + value.exponent) * 30103 / 100000
  if value.below estimate then estimate
  else if value.below (estimate + 1) then estimate + 1
  else estimate + 2

end Binary

/-- A value and the ends of its rounding interval, in parts of which `unit` make one grid step. -/
structure Window where
  /-- The lower end of the interval. -/
  low : Nat
  /-- The value itself. -/
  value : Nat
  /-- The upper end of the interval. -/
  high : Nat
  /-- The distance between two neighbours on the grid. -/
  unit : Nat
  /-- The ends belong to the interval. -/
  closed : Bool
  deriving DecidableEq, Repr

namespace Window

/-- The rounding interval of a binary value on the grid of the multiples of `10 ^ grid`. -/
def ofBinary (binary : Binary) (grid : Int) : Window :=
  let factor := raise 2 (binary.exponent - 2) * raise 10 (-grid)
  { low := (4 * binary.mantissa - if binary.narrowBelow then 1 else 2) * factor
    value := 4 * binary.mantissa * factor
    high := (4 * binary.mantissa + 2) * factor
    unit := raise 2 (2 - binary.exponent) * raise 10 grid
    closed := binary.mantissa % 2 = 0 }

/-- Whether a number of grid steps reads back as the value. -/
def holds (window : Window) (steps : Nat) : Bool :=
  if window.closed then window.low ≤ steps * window.unit && steps * window.unit ≤ window.high
  else window.low < steps * window.unit && steps * window.unit < window.high

/-- Of the grid points on both sides of the value, the closer one that reads back. -/
def pick? (window : Window) (tie : Tie) : Option Nat :=
  let floor := window.value / window.unit
  match window.holds floor, window.holds (floor + 1) with
  | false, false => none
  | true, false => some floor
  | false, true => some (floor + 1)
  | true, true =>
      match compare (2 * window.value) ((2 * floor + 1) * window.unit), tie with
      | .lt, _ => some floor
      | .gt, _ => some (floor + 1)
      | .eq, .up => some (floor + 1)
      | .eq, .even => some (if floor % 2 = 0 then floor else floor + 1)

end Window

namespace Decimal

/-- Moves trailing zeros of the coefficient, at most `limit` of them, into the exponent. -/
def strip : Nat → Decimal → Decimal
  | 0, decimal => decimal
  | limit + 1, decimal =>
      if decimal.coefficient % 10 = 0 then
        strip limit ⟨decimal.coefficient / 10, decimal.exponent + 1⟩
      else decimal

/-- The exact decimal form of a binary value. -/
def exact (binary : Binary) : Decimal :=
  if 0 ≤ binary.exponent then ⟨binary.mantissa * raise 2 binary.exponent, 0⟩
  else ⟨binary.mantissa * raise 5 (-binary.exponent), binary.exponent⟩

end Decimal

/--
The decimal with the fewest digits that stands for a positive value, the closest of these, without
trailing zeros. The grids are tried from one digit on; seventeen digits tell all doubles apart, and
for a wider format the exact decimal is the answer.
-/
def Binary.shortest (binary : Binary) (tie : Tie) : Decimal :=
  let scale := binary.scale
  let found := (List.range 17).findSome? fun (extra : Nat) =>
    let grid := scale - 1 - extra
    ((Window.ofBinary binary grid).pick? tie).map fun steps => Decimal.mk steps grid
  match found with
  | some decimal => decimal.strip 17
  | none => Decimal.exact binary

end Stencil
