/-!
# JSON values

The data a template is rendered with. A number is an integer or a double; the integers a text can
hold are those of 64 bits, unsigned or negative. The fields of an object that is read are the
entries of a `Table`: in ascending order of their names, each name once.
-/

namespace Stencil

/-- A number of a JSON text. -/
inductive Number where
  /-- A number written without fraction and exponent that fits 64 bits. -/
  | int (value : Int)
  /-- Any other number, as the double it is read as. -/
  | float (value : Float)
  deriving DecidableEq

/-- A JSON value. -/
inductive Json where
  /-- The null value. -/
  | null
  /-- A truth value. -/
  | bool (value : Bool)
  /-- A number. -/
  | number (value : Number)
  /-- A text. -/
  | string (value : String)
  /-- A list of values. -/
  | array (items : List Json)
  /-- Named values. -/
  | object (fields : List (String × Json))

namespace Json

instance : Inhabited Json := ⟨.null⟩

mutual

/-- Whether two values are the same. -/
def same : Json → Json → Bool
  | .null, .null => true
  | .bool value, .bool other => value = other
  | .number value, .number other => value = other
  | .string value, .string other => value = other
  | .array items, .array others => sameItems items others
  | .object fields, .object others => sameFields fields others
  | _, _ => false

/-- Whether two lists of values are the same. -/
def sameItems : List Json → List Json → Bool
  | [], [] => true
  | item :: items, other :: others => item.same other && sameItems items others
  | _, _ => false

/-- Whether two lists of named values are the same. -/
def sameFields : List (String × Json) → List (String × Json) → Bool
  | [], [] => true
  | (name, value) :: fields, (other, value') :: others =>
      name = other && value.same value' && sameFields fields others
  | _, _ => false

end

mutual

theorem same_iff : (value other : Json) → (value.same other = true ↔ value = other)
  | .null, other | .bool _, other | .number _, other | .string _, other => by
      cases other <;> simp [same]
  | .array items, other => by cases other <;> simp [same, sameItems_iff items]
  | .object fields, other => by cases other <;> simp [same, sameFields_iff fields]

theorem sameItems_iff :
    (items others : List Json) → (sameItems items others = true ↔ items = others)
  | [], others => by cases others <;> simp [sameItems]
  | item :: items, others => by
      cases others <;> simp [sameItems, same_iff item, sameItems_iff items]

theorem sameFields_iff :
    (fields others : List (String × Json)) → (sameFields fields others = true ↔ fields = others)
  | [], others => by cases others <;> simp [sameFields]
  | (name, value) :: fields, [] => by simp [sameFields]
  | (name, value) :: fields, (other, value') :: others => by
      simp [sameFields, same_iff value, sameFields_iff fields]

end

instance : DecidableEq Json :=
  fun value other => decidable_of_iff _ (same_iff value other)

end Json

end Stencil
