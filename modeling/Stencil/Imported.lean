import Stencil.Template.Evaluation

/-!
# Imported defs

Importing a template binds it into a copy of a scope and keeps the names that this adds. The defs
of these names can be called any number of times; they run in the copy, so their additions are seen
by later calls and never by the scope that was copied.
-/

namespace Stencil

/-- The defs that a template adds to a copy of a scope. -/
structure Imported where
  /-- The identifier of the template. -/
  id : String
  /-- The names that can be called, in order. -/
  names : List String
  /-- The copy of the scope, with the template bound into it. -/
  scope : Scope

/-- The defs of a template for the use of a scope. -/
def Template.importInto (template : Template) (scope : Scope) : Imported :=
  { id := template.id, names := template.exports scope, scope := template.bindInto scope }

/-- The events of importing a template. -/
def Template.importEvents (template : Template) (scope : Scope) : List Event :=
  template.bindingEvents scope ++ [.imported (template.exports scope).length template.id]

namespace Imported

/-- Whether a name can be called. -/
def contains (imported : Imported) (name : String) : Bool :=
  imported.names.contains name

/-- Calls an imported def. -/
def call (imported : Imported) (depth : Nat) (name : String) (arguments : List Json) :
    Option (Run Buffer Imported) :=
  if imported.contains name then
    ((Rendering.callDef (Def.invoke depth) name arguments).run imported.scope).map fun run =>
      run.mapState fun scope => { imported with scope }
  else some { outcome := .error (.defNotFound name), state := imported, events := [] }

end Imported

end Stencil
