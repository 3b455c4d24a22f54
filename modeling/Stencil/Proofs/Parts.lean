import Stencil.Proofs.Lineage

/-!
# The parts of bodies, and the bodies that a run can reach

A property of a body is mostly one of its expressions and statements taken singly, at any depth of
nesting. `Stmt.partsOf` lists them, so such a property is a condition on parts.

A body uses the defs bound in its scope and those of the templates it depends on. The defs that can
be reached from some at the start are the least family that is closed under this
(`Def.Reachable`). Runs never leave a closed family: the defs bound in a scope stay in it when
templates from the family are bound (`Scope.Within.bindInto`).
-/

namespace Stencil

/-- An expression or a statement that stands in a body. -/
inductive Part where
  | expr (expr : Expr)
  | stmt (stmt : Stmt)

mutual

/-- The parts inside of an expression. -/
def Expr.inner : Expr → List Part
  | .literal _ | .parse _ _ | .lookup _ | .lookupOrNull _ | .argument _ | .item | .index | .isOdd
  | .hasDef _ => []
  | .buffer body => Stmt.partsOf body
  | .markupOf body => Stmt.partsOf body
  | .escape expr => .expr expr :: expr.inner
  | .orElse first second => (.expr first :: first.inner) ++ (.expr second :: second.inner)
  | .add _ expr => .expr expr :: expr.inner
  | .call _ arguments => Expr.partsOf arguments
  | .includeTemplate _ vars => Expr.partsOfPairs vars
  | .importCall _ _ arguments => Expr.partsOf arguments

/-- The parts of expressions. -/
def Expr.partsOf : List Expr → List Part
  | [] => []
  | expr :: exprs => (.expr expr :: expr.inner) ++ Expr.partsOf exprs

/-- The parts of named expressions. -/
def Expr.partsOfPairs : List (String × Expr) → List Part
  | [] => []
  | (_, expr) :: pairs => (.expr expr :: expr.inner) ++ Expr.partsOfPairs pairs

/-- The parts inside of a statement. -/
def Stmt.inner : Stmt → List Part
  | .writeArguments | .fail _ => []
  | .write exprs => Expr.partsOf exprs
  | .writeEscaped exprs => Expr.partsOf exprs
  | .attributes pairs => Expr.partsOfPairs pairs
  | .attributesOf expr => .expr expr :: expr.inner
  | .forEach expr _ body => (.expr expr :: expr.inner) ++ Stmt.partsOf body
  | .cond expr whenTrue whenFalse =>
      (.expr expr :: expr.inner) ++ (Stmt.partsOf whenTrue ++ Stmt.partsOf whenFalse)
  | .discard expr => .expr expr :: expr.inner

/-- The parts of statements. -/
def Stmt.partsOf : List Stmt → List Part
  | [] => []
  | stmt :: stmts => (.stmt stmt :: stmt.inner) ++ Stmt.partsOf stmts

end

/-- The parts of an expression, itself first. -/
def Expr.parts (expr : Expr) : List Part :=
  .expr expr :: expr.inner

/-- The parts of a statement, itself first. -/
def Stmt.parts (stmt : Stmt) : List Part :=
  .stmt stmt :: stmt.inner

/-- The parts of the body of a def. -/
def Def.parts (definition : Def) : List Part :=
  Stmt.partsOf definition.body

/-- Whether the body of a def has no part of a kind, at any depth of nesting. -/
def Def.isFreeOf (kind : Part → Bool) (definition : Def) : Bool :=
  definition.parts.all fun part => !kind part

theorem Def.isFreeOf_iff {kind : Part → Bool} {definition : Def} :
    definition.isFreeOf kind = true ↔ ∀ part ∈ definition.parts, kind part = false := by
  simp [isFreeOf]

/-- The defs bound in a scope. -/
def Scope.boundDefs (scope : Scope) : List Def :=
  scope.defs.entries.map Prod.snd

/-- The defs of a template and its ancestors, and the entry point. -/
def Template.offeredDefs (template : Template) : List Def :=
  template.offers.map Prod.snd

/-- The defs whose bodies a run can come to that starts from some defs. -/
inductive Def.Reachable (start : List Def) : Def → Prop
  /-- The run starts from the def. -/
  | start {definition : Def} : definition ∈ start → Reachable start definition
  /-- The def belongs to a template that a body can use. -/
  | dependency {user definition : Def} {template : Template} :
      Reachable start user → template ∈ user.dependencies →
      definition ∈ template.offeredDefs → Reachable start definition

/-- All defs that a template can bind belong to a family. -/
def Template.Within (family : Def → Prop) (template : Template) : Prop :=
  ∀ definition ∈ template.offeredDefs, family definition

/-- All defs bound in a scope belong to a family. -/
def Scope.Within (family : Def → Prop) (scope : Scope) : Prop :=
  ∀ definition ∈ scope.boundDefs, family definition

/-- All templates that a body can use offer defs of a family only. -/
def Frame.Within (family : Def → Prop) (frame : Frame) : Prop :=
  ∀ template ∈ frame.dependencies, template.Within family

/-- A family of defs with everything that their bodies can use. -/
def Def.Closed (family : Def → Prop) : Prop :=
  ∀ definition, family definition → ∀ template ∈ definition.dependencies, template.Within family

theorem Def.Reachable.closed (start : List Def) : Def.Closed (Def.Reachable start) :=
  fun _ reached _ used _ offered => .dependency reached used offered

namespace Scope

variable {family : Def → Prop} {scope : Scope}

theorem Within.def? (within : scope.Within family) {name : String} {definition : Def}
    (found : scope.def? name = some definition) : family definition :=
  within definition (List.mem_map.mpr ⟨_, Table.mem_of_get? found, rfl⟩)

theorem Within.bindInto (within : scope.Within family) {template : Template}
    (offered : template.Within family) : (template.bindInto scope).Within family := by
  intro definition member
  obtain ⟨entry, bound, rfl⟩ := List.mem_map.mp member
  rw [template.bindInto_eq_addDefs] at bound
  rcases mem_addDefs bound with own | new
  · exact within _ (List.mem_map.mpr ⟨entry, own, rfl⟩)
  · exact offered _ (List.mem_map.mpr ⟨entry, new, rfl⟩)

/-- A scope without defs belongs to every family. -/
theorem within_of_no_defs (family : Def → Prop) (vars globals : Table Json) (policy : Policy) :
    Scope.Within family { vars, globals, policy } :=
  fun _ member => absurd member List.not_mem_nil

end Scope

/-- What a bound template can run belongs to every closed family around what was bound. -/
theorem Template.bindInto_within_reachable (template : Template) (scope : Scope) :
    (template.bindInto scope).Within
      (Def.Reachable (template.offeredDefs ++ scope.boundDefs)) := by
  have own : scope.Within (Def.Reachable (template.offeredDefs ++ scope.boundDefs)) :=
    fun _ member => .start (List.mem_append_right _ member)
  exact own.bindInto fun _ member => .start (List.mem_append_left _ member)

end Stencil
