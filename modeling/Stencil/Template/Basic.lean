import Stencil.Template.Syntax

/-!
# Templates

A template has an identifier, named defs and an entry point. The entry point is its own, or that of
the template it extends. A def keeps the templates that its body depends on, so a template holds
everything that its rendering can reach, apart from the defs bound in a scope beforehand.
-/

namespace Stencil

mutual

/-- A body with the templates it depends on. -/
inductive Def where
  | mk (body : List Stmt) (dependencies : List Template)

/-- A compiled template. -/
inductive Template where
  /-- A template with an entry point of its own. -/
  | root (id : String) (main : Def) (defs : List (String × Def))
  /-- A template that is rendered through the entry point of its parent. -/
  | extending (id : String) (parent : Template) (defs : List (String × Def))

end

namespace Def

/-- The statements of a def. -/
def body : Def → Body
  | .mk body _ => body

/-- The templates that the body of a def can use. -/
def dependencies : Def → List Template
  | .mk _ dependencies => dependencies

end Def

namespace Template

/-- The name under which an entry point is bound. -/
def mainName : String := "__main__"

/-- The identifier a template was made with. -/
def id : Template → String
  | .root id _ _ => id
  | .extending id _ _ => id

/-- The template that a template extends. -/
def parent? : Template → Option Template
  | .root _ _ _ => none
  | .extending _ parent _ => some parent

/-- The defs of a template itself, in the order in which they were added. -/
def defs : Template → List (String × Def)
  | .root _ _ defs => defs
  | .extending _ _ defs => defs

/-- Whether a template has an entry point of its own. -/
def hasMain : Template → Bool
  | .root _ _ _ => true
  | .extending _ _ _ => false

/-- A template with one more def behind those it has. -/
def withDef (template : Template) (name : String) (definition : Def) : Template :=
  match template with
  | .root id main defs => .root id main (defs ++ [(name, definition)])
  | .extending id parent defs => .extending id parent (defs ++ [(name, definition)])

/-- A template with more defs behind those it has. -/
def withDefs (template : Template) (defs : List (String × Def)) : Template :=
  defs.foldl (fun template entry => template.withDef entry.1 entry.2) template

end Template

end Stencil
