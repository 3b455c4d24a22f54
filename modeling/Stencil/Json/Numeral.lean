import Stencil.Json.Basic
import Stencil.Json.SyntaxError

/-!
# Numbers of a JSON text

A number without fraction and exponent is an integer as long as it fits 64 bits. Every other number
is a double, computed from a 64-bit significand and a power of ten by one multiplication or a few
divisions: the result is close to the written value, and not always the nearest double.

Digits enter the significand while it fits 64 bits. Integer digits from then on only raise the
exponent, and fraction digits from then on are ignored.
-/

namespace Stencil

namespace Json

/-- The outcome of reading something from the front of a text, with the characters behind it. -/
abbrev Reading (α : Type) := Except Stop (α × List Char)

/-- Reading on, with what was read and the characters behind it. -/
def Reading.andThen {α β : Type} (reading : Reading α) (next : α → List Char → Reading β) :
    Reading β :=
  match reading with
  | .ok (found, rest) => next found rest
  | .error stop => .error stop

/-- The reading of a function of what was read. -/
def Reading.map {α β : Type} (reading : Reading α) (change : α → β) : Reading β :=
  reading.andThen fun found rest => .ok (change found, rest)

@[simp]
theorem Reading.ok_andThen {α β : Type} (found : α) (rest : List Char)
    (next : α → List Char → Reading β) :
    Reading.andThen (.ok (found, rest)) next = next found rest := rfl

@[simp]
theorem Reading.ok_map {α β : Type} (found : α) (rest : List Char) (change : α → β) :
    Reading.map (.ok (found, rest)) change = .ok (change found, rest) := rfl

theorem Reading.map_eq_ok {α β : Type} {reading : Reading α} {change : α → β} {value : β}
    {rest : List Char} (read : reading.map change = .ok (value, rest)) :
    ∃ found, reading = .ok (found, rest) ∧ change found = value := by
  match reading, read with
  | .ok (found, _), rfl => exact ⟨found, rfl, rfl⟩

/-- The greatest significand: the greatest number of 64 bits. -/
def maxSignificand : Nat := 18446744073709551615

/-- The greatest magnitude of a written exponent: the greatest signed number of 32 bits. -/
def maxExponent : Nat := 2147483647

/-- The greatest magnitude of a negative integer: that of a signed number of 64 bits. -/
def maxNegative : Nat := 9223372036854775808

/-- The value of a decimal digit. -/
def digitValue (char : Char) : Nat :=
  char.toNat - '0'.toNat

/-- Integer digits: the significand, the number of digits it has no room for, and the rest. -/
def wholeDigits (significand : Nat) : List Char → Nat × Nat × List Char
  | [] => (significand, 0, [])
  | char :: rest =>
      if char.isDigit then
        let next := significand * 10 + digitValue char
        if next ≤ maxSignificand then wholeDigits next rest
        else
          let surplus := (char :: rest).takeWhile Char.isDigit
          (significand, surplus.length, rest.dropWhile Char.isDigit)
      else (significand, 0, char :: rest)

/-- Fraction digits: the significand, the number of digits it took, and what follows them all. -/
def fractionDigits (significand taken : Nat) : List Char → Nat × Nat × List Char
  | [] => (significand, taken, [])
  | char :: rest =>
      if char.isDigit then
        let next := significand * 10 + digitValue char
        if next ≤ maxSignificand then fractionDigits next (taken + 1) rest
        else (significand, taken, rest.dropWhile Char.isDigit)
      else (significand, taken, char :: rest)

/-- Exponent digits: their value, or none at the digit that makes it too great, and the rest. -/
def exponentDigits (value : Nat) : List Char → Option Nat × List Char
  | [] => (some value, [])
  | char :: rest =>
      if char.isDigit then
        let next := value * 10 + digitValue char
        if next ≤ maxExponent then exponentDigits next rest else (none, rest)
      else (some value, char :: rest)

/-- The double nearest to a power of ten. -/
def tenTo (power : Nat) : Float :=
  Float.ofScientific 1 false power

/-- A magnitude divided by a power of ten, in steps of at most `10 ^ 308`. -/
def shrink (magnitude : Float) (power : Nat) : Float :=
  if power ≤ 308 then magnitude / tenTo power
  else if magnitude == 0 then magnitude
  else shrink (magnitude / tenTo 308) (power - 308)
  termination_by power

/-- A magnitude times a power of ten, unless the product is too great for a double. -/
def grow? (magnitude : Float) (power : Nat) : Option Float :=
  if power ≤ 308 then
    let product := magnitude * tenTo power
    if product.isInf then none else some product
  else if magnitude == 0 then some magnitude
  else none

/-- The double of a significand and a power of ten. -/
def scaled? (significand : Nat) (exponent : Int) : Option Float :=
  let magnitude := significand.toUInt64.toFloat
  if exponent < 0 then some (shrink magnitude exponent.natAbs)
  else grow? magnitude exponent.natAbs

/-- A double with the sign of its number. -/
def signed (negative : Bool) (magnitude : Float) : Number :=
  .float (if negative then -magnitude else magnitude)

/-- A number without fraction and exponent whose significand fits 64 bits. -/
def integral (negative : Bool) (significand : Nat) : Number :=
  if negative then
    if significand = 0 || maxNegative < significand then signed true significand.toUInt64.toFloat
    else .int (-significand)
  else .int significand

/-- The double of a significand and a power of ten, with the text behind it. -/
def finish (negative : Bool) (significand : Nat) (exponent : Int) (rest : List Char) :
    Reading Number :=
  match scaled? significand exponent with
  | some magnitude => .ok (signed negative magnitude, rest)
  | none => .error ⟨.numberOutOfRange, rest, 0⟩

/-- The digits of an exponent behind its sign. -/
def readExponentDigits (negative : Bool) (significand : Nat) (exponent : Int) (down : Bool)
    (chars : List Char) : Reading Number :=
  match chars with
  | [] => .error ⟨.unfinishedValue, [], 0⟩
  | char :: _ =>
      if char.isDigit then
        match exponentDigits 0 chars with
        | (some value, rest) =>
            finish negative significand (if down then exponent - value else exponent + value) rest
        | (none, rest) =>
            if significand ≠ 0 && !down then .error ⟨.numberOutOfRange, rest, 0⟩
            else .ok (signed negative 0, rest.dropWhile Char.isDigit)
      else .error ⟨.invalidNumber, chars, 1⟩

/-- An exponent, behind its mark. -/
def readExponent (negative : Bool) (significand : Nat) (exponent : Int) :
    List Char → Reading Number
  | '+' :: rest => readExponentDigits negative significand exponent false rest
  | '-' :: rest => readExponentDigits negative significand exponent true rest
  | rest => readExponentDigits negative significand exponent false rest

/-- A fraction, behind its point, and what follows it. -/
def readFraction (negative : Bool) (significand : Nat) (exponent : Int) (chars : List Char) :
    Reading Number :=
  match chars with
  | [] => .error ⟨.unfinishedValue, [], 0⟩
  | char :: _ =>
      if char.isDigit then
        let (significand, taken, rest) := fractionDigits significand 0 chars
        match rest with
        | 'e' :: rest => readExponent negative significand (exponent - taken) rest
        | 'E' :: rest => readExponent negative significand (exponent - taken) rest
        | rest => finish negative significand (exponent - taken) rest
      else .error ⟨.invalidNumber, chars, 1⟩

/-- A number behind its sign. -/
def readMagnitude (negative : Bool) (chars : List Char) : Reading Number :=
  match chars with
  | [] => .error ⟨.unfinishedValue, [], 0⟩
  | first :: others =>
      if !first.isDigit then .error ⟨.invalidNumber, chars, 1⟩
      else if first = '0' && (others.head?.any Char.isDigit) then
        .error ⟨.invalidNumber, others, 1⟩
      else
        let (significand, surplus, rest) := wholeDigits 0 chars
        match rest with
        | '.' :: rest => readFraction negative significand surplus rest
        | 'e' :: rest => readExponent negative significand surplus rest
        | 'E' :: rest => readExponent negative significand surplus rest
        | rest =>
            if surplus = 0 then .ok (integral negative significand, rest)
            else finish negative significand surplus rest

end Json

end Stencil
