import Stencil.Json.Printer

/-!
# Values as output text

What a template shows of a JSON value: a string as it is, the elements of an array with commas
between them, an object as compact JSON. Doubles show no empty fraction, and an exponent only from
`1e21` up and below `1e-6`.
-/

namespace Stencil

namespace Json

/-- The text of a number, with a plus sign for its exponent unless that has a minus sign. -/
def signExponent (text : List Char) : List Char :=
  match text.dropWhile (· != 'e') with
  | [] => text
  | mark :: exponent =>
      if exponent.head? = some '-' then text
      else text.takeWhile (· != 'e') ++ mark :: '+' :: exponent

/-- A double as output text; its magnitude decides whether an exponent is shown. -/
def floatText (number : Float) : List Char :=
  if number == 0 then ['0']
  else if 1e21 ≤ number.abs || number.abs < 1e-6 then
    signExponent (Layout.scientific.set number)
  else Layout.plain.set number

/-- A number as output text. -/
def numberText : Number → String
  | .int value => String.ofList (spellInt value)
  | .float value => String.ofList (floatText value)

mutual

/-- A value as output text. -/
def text : Json → String
  | .null => "null"
  | .bool true => "true"
  | .bool false => "false"
  | .number value => numberText value
  | .string value => value
  | .array items => ",".intercalate (textItems items)
  | .object fields => compact (.object fields)

/-- The elements of an array as output texts. -/
def textItems : List Json → List String
  | [] => []
  | item :: items => item.text :: textItems items

end

@[simp]
theorem textItems_eq_map (items : List Json) : textItems items = items.map text := by
  induction items with
  | nil => simp [textItems]
  | cons item items ih => simp [textItems, ih]

end Json

end Stencil
