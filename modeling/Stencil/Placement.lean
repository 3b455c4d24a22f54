/-!
# Places in a document

Where a rendered template goes, relative to the nodes that a target selects.
-/

namespace Stencil

/-- A place relative to the nodes selected by a target. -/
inductive Placement where
  /-- Behind the last child. -/
  | appendTo
  /-- Before the first child. -/
  | prependTo
  /-- Behind the node. -/
  | insertAfter
  /-- Before the node. -/
  | insertBefore
  deriving DecidableEq, Repr

/-- The name of a placement in messages. -/
def Placement.name : Placement → String
  | .appendTo => "append_to"
  | .prependTo => "prepend_to"
  | .insertAfter => "insert_after"
  | .insertBefore => "insert_before"

end Stencil
