import Stencil.Attribute

/-!
# Values of template expressions

What an expression of a template body evaluates to, and the four ways in which a value is used: as
content to write, as an attribute's value, as JSON data, and as a condition.
-/

namespace Stencil

/-- The value of an expression. -/
inductive Value where
  /-- No value. -/
  | undefined
  /-- Plain text. -/
  | text (plain : String)
  /-- Trusted HTML. -/
  | markup (trusted : Markup)
  /-- What a nested body wrote. -/
  | buffer (nested : Buffer)
  /-- JSON data; as an attribute's value, null is absent and truth values are flags. -/
  | json (data : Json)
  /-- JSON data that is always shown as its text, as an attribute's value too. -/
  | jsonText (data : Json)
  /-- A truth value. -/
  | bool (holds : Bool)
  /-- A whole number. -/
  | int (number : Int)
  /-- A double. -/
  | float (number : Float)
  deriving DecidableEq

namespace Value

/-- A looked-up value, which may be missing. -/
def ofOption : Option Json → Value
  | some data => .json data
  | none => .undefined

/-- A truth value as text. -/
def boolText (holds : Bool) : String :=
  if holds then "true" else "false"

/-- Data that is handed over to be written: a string as it is, anything else as its text. -/
def ownedContent : Json → Content
  | .string plain => .text plain
  | data => .text data.text

theorem ownedContent_eq (data : Json) : ownedContent data = .text data.text := by
  cases data <;> rfl

/-- A value as content to write; no value is empty text. -/
def toContent : Value → Content
  | .undefined => .text ""
  | .text plain => .text plain
  | .markup trusted => .markup trusted
  | .buffer nested => .buffer nested
  | .json data => .text data.text
  | .jsonText data => ownedContent data
  | .bool holds => .text (boolText holds)
  | .int number => .text (String.ofList (Json.spellInt number))
  | .float number => .text (String.ofList (Layout.plain.set number))

/-- A value as the value of an attribute. -/
def toAttribute : Value → AttributeValue
  | .undefined => .absent
  | .bool holds => .flag holds
  | .json data => data.toAttribute
  | value => .value value.toContent

/-- A value as JSON data; no value is null, and written output is its text. -/
def toJson : Value → Json
  | .undefined => .null
  | .text plain => .string plain
  | .markup trusted => .string trusted.text
  | .buffer nested => .string nested.flatten
  | .json data => data
  | .jsonText data => data
  | .bool holds => .bool holds
  | .int number => .number (.int number)
  | .float number => .number (.float number)

/-- Whether a condition on a value holds: no value, null and false do not. -/
def isTruthy : Value → Bool
  | .undefined => false
  | .bool holds => holds
  | .json .null => false
  | .json (.bool holds) => holds
  | _ => true

end Value

end Stencil
