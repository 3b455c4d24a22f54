import Stencil.Proofs.Escaping
import Stencil.Template.Value

/-!
# Arrays and their leaves

The text of an array is made level by level: the elements are turned into texts, arrays among them
with commas of their own, and these texts are joined. All in all this puts commas between the leaves
of the array, which are the texts of everything in it that is not an array. An empty array is a leaf
as well, with an empty text, so it keeps its place between two commas. A comma is not reserved, so
it makes no difference whether leaves are escaped one by one or all at once.
-/

namespace Stencil

namespace Json

mutual

/-- The texts of what is not an array inside a value, in order, and an empty one for no elements. -/
def leaves : Json → List String
  | .array [] => [""]
  | .array (item :: items) => item.leaves ++ leavesItems items
  | value => [value.text]

/-- The leaves of the elements of an array, in order. -/
def leavesItems : List Json → List String
  | [] => []
  | item :: items => item.leaves ++ leavesItems items

end

@[simp]
theorem leavesItems_eq_flatMap (items : List Json) : leavesItems items = items.flatMap leaves := by
  induction items with
  | nil => simp [leavesItems]
  | cons item items ih => simp [leavesItems, ih]

theorem leaves_array (items : List Json) :
    (Json.array items).leaves = if items.isEmpty then [""] else items.flatMap leaves := by
  cases items <;> simp [leaves]

/-- Every value has a leaf. -/
theorem leaves_ne_nil : (value : Json) → value.leaves ≠ []
  | .array [] => by simp [leaves]
  | .array (item :: _) => by simp [leaves, leaves_ne_nil item]
  | .null => by simp [leaves]
  | .bool _ => by simp [leaves]
  | .number _ => by simp [leaves]
  | .string _ => by simp [leaves]
  | .object _ => by simp [leaves]

mutual

/-- The text of a value is that of its leaves, with commas between them. -/
theorem text_eq_intercalate_leaves : (value : Json) → value.text = ",".intercalate value.leaves
  | .array [] => by simp [leaves, text]
  | .array (item :: items) => by
      have joined := intercalate_map_text (item :: items) (List.cons_ne_nil _ _)
      rw [leaves_array, text, textItems_eq_map]
      exact joined
  | .null => by simp [leaves]
  | .bool _ => by simp [leaves]
  | .number _ => by simp [leaves]
  | .string _ => by simp [leaves]
  | .object _ => by simp [leaves]

/-- Elements that are joined to one text are joined leaf by leaf. -/
theorem intercalate_map_text : (items : List Json) → items ≠ [] →
    ",".intercalate (items.map text) = ",".intercalate (items.flatMap leaves)
  | [item], _ => by simpa using text_eq_intercalate_leaves item
  | item :: next :: items, _ => by
      have first := text_eq_intercalate_leaves item
      have others := intercalate_map_text (next :: items) (List.cons_ne_nil _ _)
      have texts_ne_nil : (next :: items).map text ≠ [] := List.cons_ne_nil _ _
      have others_ne_nil : (next :: items).flatMap leaves ≠ [] := by simp [leaves_ne_nil next]
      calc ",".intercalate ((item :: next :: items).map text)
          = item.text ++ "," ++ ",".intercalate ((next :: items).map text) := by
            rw [List.map_cons, String.intercalate_cons_of_ne_nil texts_ne_nil]
        _ = ",".intercalate item.leaves ++ "," ++
              ",".intercalate ((next :: items).flatMap leaves) := by rw [first, others]
        _ = ",".intercalate ((item :: next :: items).flatMap leaves) := by
            rw [← String.intercalate_append_of_ne_nil (leaves_ne_nil item) others_ne_nil,
              ← List.flatMap_cons]

end

end Json

/-- Texts with commas between them are escaped one by one. -/
theorem Html.escape_intercalate (texts : List String) :
    escape (",".intercalate texts) = ",".intercalate (texts.map escape) := by
  have comma : escape "," = "," := escape_of_not_needsEscape (by decide)
  induction texts with
  | nil => rfl
  | cons text texts ih =>
      cases texts with
      | nil => simp
      | cons next texts =>
          rw [String.intercalate_cons_cons, escape_append, escape_append, comma, ih]
          simp only [List.map_cons, String.intercalate_cons_cons]

/--
Arrays are flat when they are written. However they are nested, the text of a value has a comma
between every two of its leaves, and so has its escaped form with every leaf escaped on its own. It
is the same whether the data is handed over or only looked at, and in neither case is it trusted.
-/
theorem Json.text_joins_leaves (value : Json) :
    value.text = ",".intercalate value.leaves ∧
    (Value.json value).toContent.escape.text = ",".intercalate (value.leaves.map Html.escape) ∧
    (Value.json value).toContent = .text value.text ∧
    (Value.jsonText value).toContent = (Value.json value).toContent ∧
    (Value.json value).toContent.isSafe = false ∧
    (Value.jsonText value).toContent.isSafe = false := by
  have joined := text_eq_intercalate_leaves value
  have owned : (Value.jsonText value).toContent = .text value.text := Value.ownedContent_eq value
  refine ⟨joined, ?_, rfl, owned, rfl, ?_⟩
  · rw [← Html.escape_intercalate, ← joined]
    rfl
  · rw [owned]
    rfl

-- An empty array keeps its place between two commas.
example : (Json.array [.array [.string "a", .array []], .null]).leaves = ["a", "", "null"] ∧
    (Json.array [.array [.string "a", .array []], .null]).text = "a,,null" := by
  decide +kernel

end Stencil
