import Stencil.Decimal.Layout
import Stencil.Json.Basic

/-!
# Compact JSON text

`Json.compact` writes a value without blanks, the fields of an object in the order of the table.
Inside a string a quote, a backslash and the control characters are escaped, and nothing else.
Doubles always show a fraction or an exponent, so that they read back as doubles.
-/

namespace Stencil

namespace Json

/-- Doubles are written positionally from `0.00001` up to sixteen digits before the point. -/
def layout : Layout where
  positional leading := -5 ≤ leading && leading < 16
  fraction := true
  plus := true
  tie := .even

/-- The letter that stands for a character behind a backslash inside a string. -/
def escapeLetter? : Char → Option Char
  | '"' => some '"'
  | '\\' => some '\\'
  | '\x08' => some 'b'
  | '\t' => some 't'
  | '\n' => some 'n'
  | '\x0c' => some 'f'
  | '\r' => some 'r'
  | _ => none

/-- One character of a string as it is written between quotes. -/
def spellChar (char : Char) : List Char :=
  match escapeLetter? char with
  | some letter => ['\\', letter]
  | none =>
      if char.toNat < 0x20 then
        ['\\', 'u', '0', '0', Nat.digitChar (char.toNat / 16), Nat.digitChar (char.toNat % 16)]
      else [char]

/-- A string between quotes. -/
def spellString (text : String) : List Char :=
  '"' :: (text.toList.flatMap spellChar ++ ['"'])

/-- An integer in decimal digits, with a minus sign if it is negative. -/
def spellInt : Int → List Char
  | .ofNat magnitude => Nat.toDigits 10 magnitude
  | .negSucc magnitude => '-' :: Nat.toDigits 10 (magnitude + 1)

/-- A number; an integer shows no fraction, a double always shows a fraction or an exponent. -/
def spellNumber : Number → List Char
  | .int value => spellInt value
  | .float value => layout.set value

mutual

/-- The characters of the compact text of a value. -/
def spell : Json → List Char
  | .null => "null".toList
  | .bool true => "true".toList
  | .bool false => "false".toList
  | .number value => spellNumber value
  | .string value => spellString value
  | .array [] => ['[', ']']
  | .array (item :: items) => '[' :: (item.spell ++ spellItems items ++ [']'])
  | .object [] => ['\x7b', '\x7d']
  | .object ((name, value) :: fields) =>
      '\x7b' :: (spellString name ++ ':' :: (value.spell ++ spellFields fields ++ ['\x7d']))

/-- The elements of an array behind its first one, each with a comma before it. -/
def spellItems : List Json → List Char
  | [] => []
  | item :: items => ',' :: (item.spell ++ spellItems items)

/-- The fields of an object behind its first one, each with a comma before it. -/
def spellFields : List (String × Json) → List Char
  | [] => []
  | (name, value) :: fields =>
      ',' :: (spellString name ++ ':' :: (value.spell ++ spellFields fields))

end

/-- The compact text of a value. -/
def compact (value : Json) : String :=
  String.ofList value.spell

end Json

end Stencil
