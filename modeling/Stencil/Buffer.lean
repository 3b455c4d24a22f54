import Stencil.Html.Entity

/-!
# Markup, buffers and content

A `Buffer` is the list of fragments a template has written. What may be written is a `Content`:
plain text, or something already safe. Only markup and buffers are safe; text is escaped wherever
it is written with `writeEscaped`, and a nested buffer is spliced in fragment by fragment.
-/

namespace Stencil

/-- A text that is HTML as it stands and is never escaped again. -/
structure Markup where
  /-- The HTML. -/
  text : String
  deriving DecidableEq, Repr

/-- The fragments written so far, in order. -/
structure Buffer where
  /-- The fragments. -/
  fragments : Array String := #[]
  deriving DecidableEq, Repr

/-- Anything a template can write. -/
inductive Content where
  /-- Plain text, which means nothing as HTML until it is escaped. -/
  | text (plain : String)
  /-- Trusted HTML. -/
  | markup (trusted : Markup)
  /-- The fragments of a nested buffer. -/
  | buffer (nested : Buffer)

namespace Buffer

/-- Nothing was written that could be seen. -/
def isEmpty (buffer : Buffer) : Bool :=
  buffer.fragments.all String.isEmpty

/-- The concatenation of the fragments. -/
def flatten (buffer : Buffer) : String :=
  buffer.fragments.foldl (· ++ ·) ""

/-- A buffer consists of template text and escaped values, so it is safe as a whole. -/
def toMarkup (buffer : Buffer) : Markup :=
  ⟨buffer.flatten⟩

/-- One more fragment. -/
def push (buffer : Buffer) (fragment : String) : Buffer :=
  ⟨buffer.fragments.push fragment⟩

/-- The fragments of a nested buffer, in its place. -/
def splice (buffer nested : Buffer) : Buffer :=
  ⟨buffer.fragments ++ nested.fragments⟩

end Buffer

namespace Content

/-- Whether content may be written as it is. -/
def isSafe : Content → Bool
  | .text _ => false
  | .markup _ | .buffer _ => true

/-- Content as markup: safe content as it is, text escaped. -/
def escape : Content → Markup
  | .text plain => ⟨Html.escape plain⟩
  | .markup trusted => trusted
  | .buffer nested => nested.toMarkup

end Content

namespace Buffer

/-- Writes content without escaping it. -/
def write (buffer : Buffer) : Content → Buffer
  | .text plain => buffer.push plain
  | .markup trusted => buffer.push trusted.text
  | .buffer nested => buffer.splice nested

/-- Writes content, escaping it unless it is safe. -/
def writeEscaped (buffer : Buffer) : Content → Buffer
  | .buffer nested => buffer.splice nested
  | content => buffer.push content.escape.text

/-- Writes contents in order without escaping them. -/
def writeAll (buffer : Buffer) (contents : List Content) : Buffer :=
  contents.foldl write buffer

/-- Writes contents in order, escaping those that are not safe. -/
def writeAllEscaped (buffer : Buffer) (contents : List Content) : Buffer :=
  contents.foldl writeEscaped buffer

end Buffer

end Stencil
