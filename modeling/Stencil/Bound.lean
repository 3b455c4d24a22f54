import Stencil.Placement
import Stencil.Template.Evaluation

/-!
# Bound templates

A template bound to a scope can be rendered any number of times; every rendering runs the entry
point anew and leaves its additions in the scope. With a host attached, a rendering can be handed
over to be inserted into a document.

Every run is granted a depth of nested calls, and is none if it needs more.
-/

namespace Stencil

/-- A rendered template handed over to be placed in a document. -/
structure Insertion where
  /-- The rendered template. -/
  html : String
  /-- Where to place it. -/
  placement : Placement
  /-- What selects the nodes it is placed relative to. -/
  target : String
  deriving DecidableEq, Repr

/-- A document that templates can be inserted into. -/
structure Host where
  /-- How the host answers an insertion. -/
  respond : Insertion → Except RenderError Unit
  /-- The insertions the host was asked for, in order. -/
  received : List Insertion := []

/-- A host after it was asked for an insertion, whatever it answered. -/
def Host.receive (host : Host) (insertion : Insertion) : Host :=
  { host with received := host.received ++ [insertion] }

/-- A template bound to a scope. -/
structure Bound where
  /-- The identifier of the template. -/
  id : String
  /-- The scope that its bodies run in. -/
  scope : Scope
  /-- The document that it can be inserted into. -/
  host : Option Host := none

/-- A template bound to a scope. -/
def Template.bind (template : Template) (scope : Scope) : Bound :=
  { id := template.id, scope := template.bindInto scope }

namespace Bound

/-- A bound template with another policy for unknown names. -/
def withPolicy (bound : Bound) (policy : Policy) : Bound :=
  { bound with scope := { bound.scope with policy } }

/-- Renders a template to the fragments it writes. -/
def renderBuffer (bound : Bound) (depth : Nat) : Option (Run Buffer Bound) :=
  ((Rendering.runMain (Def.invoke depth) bound.id).run bound.scope).map fun run =>
    run.mapState fun scope => { bound with scope }

/-- Renders a template to a text. -/
def render (bound : Bound) (depth : Nat) : Option (Run String Bound) :=
  (bound.renderBuffer depth).map (·.map Buffer.flatten)

/-- Renders a template to markup that other output can embed. -/
def renderMarkup (bound : Bound) (depth : Nat) : Option (Run Markup Bound) :=
  (bound.renderBuffer depth).map (·.map Buffer.toMarkup)

/-- A bound template with a host in place of any it had. -/
def withHost (bound : Bound) (host : Host) : Bound :=
  { bound with host := some host }

/-- Whether a template can be inserted into a document. -/
def hasHost (bound : Bound) : Bool :=
  bound.host.isSome

/--
Renders a template and hands the result to the host. Without a host nothing is rendered, and a
rendering that fails is not handed over.
-/
def insert (bound : Bound) (depth : Nat) (placement : Placement) (target : String) :
    Option (Run Unit Bound) :=
  match bound.host with
  | none => some { outcome := .error (.hostMissing placement.name), state := bound, events := [] }
  | some host =>
      (bound.render depth).map fun run =>
        match run.outcome with
        | .error error => { run with outcome := .error error }
        | .ok html =>
            let insertion : Insertion := { html, placement, target }
            { run with
              outcome := host.respond insertion
              state := run.state.withHost (host.receive insertion) }

/-- Renders a template and has it placed behind the last child of the target. -/
def appendTo (bound : Bound) (depth : Nat) (target : String) : Option (Run Unit Bound) :=
  bound.insert depth .appendTo target

/-- Renders a template and has it placed before the first child of the target. -/
def prependTo (bound : Bound) (depth : Nat) (target : String) : Option (Run Unit Bound) :=
  bound.insert depth .prependTo target

/-- Renders a template and has it placed behind the target. -/
def insertAfter (bound : Bound) (depth : Nat) (target : String) : Option (Run Unit Bound) :=
  bound.insert depth .insertAfter target

/-- Renders a template and has it placed before the target. -/
def insertBefore (bound : Bound) (depth : Nat) (target : String) : Option (Run Unit Bound) :=
  bound.insert depth .insertBefore target

end Bound

namespace Template

/-- Renders a template once, over variables and globals of its own. -/
def render (template : Template) (vars globals : Table Json) (depth : Nat) :
    Option (Run String Bound) :=
  (template.bind { vars, globals }).render depth

end Template

end Stencil
