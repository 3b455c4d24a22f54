import Stencil.Buffer
import Stencil.Json.Text

/-!
# Attributes

An attribute is written as a fragment ` name="value"` with the value escaped. A flag stands for
itself: a true one is written as ` name="name"`, a false one not at all, and neither is an absent
value. In JSON data null is an absent value and truth values are flags. Names are written as they
are.
-/

namespace Stencil

/-- The value side of an attribute. -/
inductive AttributeValue where
  /-- Present without a value of its own, or missing. -/
  | flag (isSet : Bool)
  /-- Missing. -/
  | absent
  /-- Present with a value. -/
  | value (content : Content)

/-- The attribute value that a JSON value stands for. -/
def Json.toAttribute : Json → AttributeValue
  | .null => .absent
  | .bool value => .flag value
  | value => .value (.text value.text)

namespace Buffer

/-- Writes one attribute. -/
def writeAttribute (buffer : Buffer) (name : String) : AttributeValue → Buffer
  | .flag true => buffer.push (" " ++ name ++ "=\"" ++ name ++ "\"")
  | .flag false | .absent => buffer
  | .value content => buffer.push (" " ++ name ++ "=\"" ++ content.escape.text ++ "\"")

/-- Attributes in a buffer of their own, in order. -/
def ofAttributes (attributes : List (String × AttributeValue)) : Buffer :=
  attributes.foldl (fun buffer pair => buffer.writeAttribute pair.1 pair.2) {}

end Buffer

end Stencil
