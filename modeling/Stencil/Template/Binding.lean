import Stencil.Event
import Stencil.Scope
import Stencil.Template.Equality

/-!
# Binding a template into a scope

Binding adds the defs of a template, then those of its ancestors, then the entry point. A name that
is bound already keeps its def, so a scope's own defs come before the template's, and a child's
before its parent's.
-/

namespace Stencil

/-- A scope with defs added in order. -/
def Scope.addDefs (scope : Scope) (defs : List (String × Def)) : Scope :=
  defs.foldl (fun scope entry => scope.addDef entry.1 entry.2) scope

/-- The events of adding a template's own defs: one for each that is left out. -/
def Scope.clashes (scope : Scope) (template : String) : List (String × Def) → List Event
  | [] => []
  | (name, definition) :: rest =>
      let (stored, next) := scope.storeDef name definition
      let later := next.clashes template rest
      if stored then later else .alreadyBound template name :: later

namespace Template

/-- A scope with a template bound into it. -/
def bindInto : Template → Scope → Scope
  | .root _ main defs, scope => (scope.addDefs defs).addDef mainName main
  | .extending _ parent defs, scope => parent.bindInto (scope.addDefs defs)

/-- The events of binding a template into a scope. -/
def bindingEvents : Template → Scope → List Event
  | .root id _ defs, scope => scope.clashes id defs
  | .extending id parent defs, scope =>
      scope.clashes id defs ++ parent.bindingEvents (scope.addDefs defs)

/--
The names that binding a template adds to a scope, apart from the entry point: those whose def is
not the one that the scope had under that name.
-/
def exports (template : Template) (scope : Scope) : List String :=
  let added := (template.bindInto scope).defs.entries.filter fun (name, definition) =>
    name ≠ mainName && scope.def? name ≠ some definition
  added.map Prod.fst

end Template

end Stencil
