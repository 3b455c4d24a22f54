import Stencil.Template.Basic

/-!
# Equality of defs

Whether two defs are the same is decided by comparing them part by part: bodies by their statements,
dependencies by their templates. A def is not looked into when it is compared with itself.
-/

namespace Stencil

mutual

/-- Whether two expressions are the same. -/
def Expr.same : Expr → Expr → Bool
  | .literal value, .literal other => value = other
  | .parse source asText, .parse other asText' => source = other && asText = asText'
  | .buffer body, .buffer other => Stmt.sameAll body other
  | .markupOf body, .markupOf other => Stmt.sameAll body other
  | .escape expr, .escape other => expr.same other
  | .lookup name, .lookup other => name = other
  | .lookupOrNull name, .lookupOrNull other => name = other
  | .orElse first second, .orElse other second' => first.same other && second.same second'
  | .argument index, .argument other => index = other
  | .item, .item => true
  | .index, .index => true
  | .isOdd, .isOdd => true
  | .add name expr, .add other expr' => name = other && expr.same expr'
  | .hasDef name, .hasDef other => name = other
  | .call name arguments, .call other arguments' =>
      name = other && Expr.sameAll arguments arguments'
  | .includeTemplate dependency vars, .includeTemplate other vars' =>
      dependency = other && Expr.samePairs vars vars'
  | .importCall dependency name arguments, .importCall other name' arguments' =>
      dependency = other && name = name' && Expr.sameAll arguments arguments'
  | _, _ => false

/-- Whether two lists of expressions are the same. -/
def Expr.sameAll : List Expr → List Expr → Bool
  | [], [] => true
  | expr :: exprs, other :: others => expr.same other && Expr.sameAll exprs others
  | _, _ => false

/-- Whether two lists of named expressions are the same. -/
def Expr.samePairs : List (String × Expr) → List (String × Expr) → Bool
  | [], [] => true
  | (name, expr) :: pairs, (other, expr') :: others =>
      name = other && expr.same expr' && Expr.samePairs pairs others
  | _, _ => false

/-- Whether two statements are the same. -/
def Stmt.same : Stmt → Stmt → Bool
  | .write exprs, .write others => Expr.sameAll exprs others
  | .writeEscaped exprs, .writeEscaped others => Expr.sameAll exprs others
  | .writeArguments, .writeArguments => true
  | .attributes pairs, .attributes others => Expr.samePairs pairs others
  | .attributesOf expr, .attributesOf other => expr.same other
  | .forEach expr complaint body, .forEach other complaint' body' =>
      expr.same other && complaint = complaint' && Stmt.sameAll body body'
  | .cond expr whenTrue whenFalse, .cond other whenTrue' whenFalse' =>
      expr.same other && Stmt.sameAll whenTrue whenTrue' && Stmt.sameAll whenFalse whenFalse'
  | .discard expr, .discard other => expr.same other
  | .fail message, .fail other => message = other
  | _, _ => false

/-- Whether two bodies are the same. -/
def Stmt.sameAll : List Stmt → List Stmt → Bool
  | [], [] => true
  | stmt :: stmts, other :: others => stmt.same other && Stmt.sameAll stmts others
  | _, _ => false

end

mutual

theorem Expr.same_iff : (expr other : Expr) → (expr.same other = true ↔ expr = other)
  | .literal _, other | .parse _ _, other | .lookup _, other | .lookupOrNull _, other
  | .argument _, other | .item, other | .index, other | .isOdd, other | .hasDef _, other => by
      cases other <;> simp [Expr.same]
  | .buffer body, other | .markupOf body, other => by
      cases other <;> simp [Expr.same, Stmt.sameAll_iff body]
  | .escape expr, other | .add _ expr, other => by
      cases other <;> simp [Expr.same, Expr.same_iff expr]
  | .orElse first second, other => by
      cases other <;> simp [Expr.same, Expr.same_iff first, Expr.same_iff second]
  | .call _ arguments, other | .importCall _ _ arguments, other => by
      cases other <;> simp [Expr.same, Expr.sameAll_iff arguments, and_assoc]
  | .includeTemplate _ vars, other => by
      cases other <;> simp [Expr.same, Expr.samePairs_iff vars]

theorem Expr.sameAll_iff :
    (exprs others : List Expr) → (Expr.sameAll exprs others = true ↔ exprs = others)
  | [], others => by cases others <;> simp [Expr.sameAll]
  | expr :: exprs, others => by
      cases others <;> simp [Expr.sameAll, Expr.same_iff expr, Expr.sameAll_iff exprs]

theorem Expr.samePairs_iff :
    (pairs others : List (String × Expr)) → (Expr.samePairs pairs others = true ↔ pairs = others)
  | [], others => by cases others <;> simp [Expr.samePairs]
  | (name, expr) :: pairs, [] => by simp [Expr.samePairs]
  | (name, expr) :: pairs, (other, expr') :: others => by
      simp [Expr.samePairs, Expr.same_iff expr, Expr.samePairs_iff pairs]

theorem Stmt.same_iff : (stmt other : Stmt) → (stmt.same other = true ↔ stmt = other)
  | .writeArguments, other | .fail _, other => by cases other <;> simp [Stmt.same]
  | .write exprs, other | .writeEscaped exprs, other => by
      cases other <;> simp [Stmt.same, Expr.sameAll_iff exprs]
  | .attributes pairs, other => by cases other <;> simp [Stmt.same, Expr.samePairs_iff pairs]
  | .attributesOf expr, other | .discard expr, other => by
      cases other <;> simp [Stmt.same, Expr.same_iff expr]
  | .forEach expr _ body, other => by
      cases other <;> simp [Stmt.same, Expr.same_iff expr, Stmt.sameAll_iff body, and_assoc]
  | .cond expr whenTrue whenFalse, other => by
      cases other <;> simp [Stmt.same, Expr.same_iff expr, Stmt.sameAll_iff whenTrue,
        Stmt.sameAll_iff whenFalse, and_assoc]

theorem Stmt.sameAll_iff :
    (stmts others : List Stmt) → (Stmt.sameAll stmts others = true ↔ stmts = others)
  | [], others => by cases others <;> simp [Stmt.sameAll]
  | stmt :: stmts, others => by
      cases others <;> simp [Stmt.sameAll, Stmt.same_iff stmt, Stmt.sameAll_iff stmts]

end

mutual

/-- Whether two defs are the same. -/
def Def.same : Def → Def → Bool
  | .mk body dependencies, .mk other dependencies' =>
      Stmt.sameAll body other && Template.sameAll dependencies dependencies'

/-- Whether two lists of named defs are the same. -/
def Def.samePairs : List (String × Def) → List (String × Def) → Bool
  | [], [] => true
  | (name, definition) :: defs, (other, definition') :: others =>
      name = other && definition.same definition' && Def.samePairs defs others
  | _, _ => false

/-- Whether two templates are the same. -/
def Template.same : Template → Template → Bool
  | .root id main defs, .root other main' defs' =>
      id = other && main.same main' && Def.samePairs defs defs'
  | .extending id parent defs, .extending other parent' defs' =>
      id = other && parent.same parent' && Def.samePairs defs defs'
  | _, _ => false

/-- Whether two lists of templates are the same. -/
def Template.sameAll : List Template → List Template → Bool
  | [], [] => true
  | template :: templates, other :: others =>
      template.same other && Template.sameAll templates others
  | _, _ => false

end

mutual

theorem Def.same_iff :
    (definition other : Def) → (definition.same other = true ↔ definition = other)
  | .mk body dependencies, .mk other dependencies' => by
      simp [Def.same, Stmt.sameAll_iff body, Template.sameAll_iff dependencies]

theorem Def.samePairs_iff :
    (defs others : List (String × Def)) → (Def.samePairs defs others = true ↔ defs = others)
  | [], others => by cases others <;> simp [Def.samePairs]
  | (name, definition) :: defs, [] => by simp [Def.samePairs]
  | (name, definition) :: defs, (other, definition') :: others => by
      simp [Def.samePairs, Def.same_iff definition, Def.samePairs_iff defs]

theorem Template.same_iff :
    (template other : Template) → (template.same other = true ↔ template = other)
  | .root id main defs, other => by
      cases other <;> simp [Template.same, Def.same_iff main, Def.samePairs_iff defs, and_assoc]
  | .extending id parent defs, other => by
      cases other <;>
        simp [Template.same, Template.same_iff parent, Def.samePairs_iff defs, and_assoc]

theorem Template.sameAll_iff : (templates others : List Template) →
    (Template.sameAll templates others = true ↔ templates = others)
  | [], others => by cases others <;> simp [Template.sameAll]
  | template :: templates, others => by
      cases others <;>
        simp [Template.sameAll, Template.same_iff template, Template.sameAll_iff templates]

end

instance : DecidableEq Def := fun definition other =>
  withPtrEqDecEq definition other fun _ =>
    decidable_of_iff _ (Def.same_iff definition other)

end Stencil
