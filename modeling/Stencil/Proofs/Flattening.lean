import Stencil.Attribute

/-!
# The text of a buffer

Whatever is written to a buffer appends to its text: content as it stands or escaped, the fragments
of a nested buffer, attributes. How the text is cut into fragments does not matter.
-/

namespace Stencil

/-- The text of content that is written without escaping. -/
def Content.plain : Content → String
  | .text plain => plain
  | .markup trusted => trusted.text
  | .buffer nested => nested.flatten

/-- The text of an attribute. -/
def AttributeValue.shown (name : String) : AttributeValue → String
  | .flag true => " " ++ name ++ "=\"" ++ name ++ "\""
  | .flag false | .absent => ""
  | .value content => " " ++ name ++ "=\"" ++ content.escape.text ++ "\""

namespace Buffer

theorem flatten_eq_join (buffer : Buffer) :
    buffer.flatten = String.join buffer.fragments.toList := by
  rw [flatten, ← Array.foldl_toList]
  rfl

@[simp]
theorem flatten_empty : ({} : Buffer).flatten = "" := rfl

@[simp]
theorem flatten_push (buffer : Buffer) (fragment : String) :
    (buffer.push fragment).flatten = buffer.flatten ++ fragment := by
  simp [flatten_eq_join, push]

@[simp]
theorem flatten_splice (buffer nested : Buffer) :
    (buffer.splice nested).flatten = buffer.flatten ++ nested.flatten := by
  simp [flatten_eq_join, splice]

@[simp]
theorem flatten_write (buffer : Buffer) (content : Content) :
    (buffer.write content).flatten = buffer.flatten ++ content.plain := by
  cases content <;> simp [write, Content.plain]

@[simp]
theorem flatten_writeEscaped (buffer : Buffer) (content : Content) :
    (buffer.writeEscaped content).flatten = buffer.flatten ++ content.escape.text := by
  cases content <;> simp [writeEscaped, Content.escape, toMarkup]

theorem flatten_writeAll (buffer : Buffer) (contents : List Content) :
    (buffer.writeAll contents).flatten =
      buffer.flatten ++ String.join (contents.map Content.plain) := by
  induction contents generalizing buffer with
  | nil => simp [writeAll]
  | cons content contents ih =>
      change ((buffer.write content).writeAll contents).flatten = _
      rw [ih, flatten_write, List.map_cons, String.join_cons, String.append_assoc]

theorem flatten_writeAllEscaped (buffer : Buffer) (contents : List Content) :
    (buffer.writeAllEscaped contents).flatten =
      buffer.flatten ++ String.join (contents.map (·.escape.text)) := by
  induction contents generalizing buffer with
  | nil => simp [writeAllEscaped]
  | cons content contents ih =>
      change ((buffer.writeEscaped content).writeAllEscaped contents).flatten = _
      rw [ih, flatten_writeEscaped, List.map_cons, String.join_cons, String.append_assoc]

@[simp]
theorem flatten_writeAttribute (buffer : Buffer) (name : String) (value : AttributeValue) :
    (buffer.writeAttribute name value).flatten = buffer.flatten ++ value.shown name := by
  match value with
  | .flag true => exact flatten_push _ _
  | .flag false => simp [writeAttribute, AttributeValue.shown]
  | .absent => simp [writeAttribute, AttributeValue.shown]
  | .value content => exact flatten_push _ _

theorem flatten_ofAttributes (attributes : List (String × AttributeValue)) :
    (ofAttributes attributes).flatten =
      String.join (attributes.map fun pair => pair.2.shown pair.1) := by
  have general : ∀ (buffer : Buffer),
      (attributes.foldl (fun buffer pair => buffer.writeAttribute pair.1 pair.2) buffer).flatten =
        buffer.flatten ++ String.join (attributes.map fun pair => pair.2.shown pair.1) := by
    induction attributes with
    | nil => simp
    | cons pair rest ih =>
        intro buffer
        rw [List.foldl_cons, ih, flatten_writeAttribute, List.map_cons, String.join_cons,
          String.append_assoc]
  rw [ofAttributes, general, flatten_empty, String.empty_append]

end Buffer

end Stencil
