import Stencil.Error
import Stencil.Template.Value

/-!
# Template bodies

A body is a list of statements that write to one buffer. Its expressions reach the outside only by
name: they look names up in the scope, add names to it, call the defs bound in it, and use other
templates by their position among the dependencies of the body.
-/

namespace Stencil

mutual

/-- An expression of a template body. -/
inductive Expr where
  /-- A value written in the body. -/
  | literal (value : Value)
  /--
  JSON data given by its text, which is read when the expression is evaluated. It may be shown as
  its text everywhere, in attributes too.
  -/
  | parse (source : String) (asText : Bool)
  /-- What a nested body writes. -/
  | buffer (body : List Stmt)
  /-- What a nested body writes, as markup. -/
  | markupOf (body : List Stmt)
  /-- A value as markup, escaped unless it is safe. -/
  | escape (expr : Expr)
  /-- The value of a name, or no value. -/
  | lookup (name : String)
  /-- The value of a name, or null. -/
  | lookupOrNull (name : String)
  /-- The first value, or the second if the first is none. -/
  | orElse (first second : Expr)
  /-- An argument of the def that runs. -/
  | argument (index : Nat)
  /-- The current item of the innermost loop. -/
  | item
  /-- The position of the current item, from zero. -/
  | index
  /-- Whether the position of the current item is odd. -/
  | isOdd
  /-- Adds a name to the context unless it is there; whether it was added. -/
  | add (name : String) (expr : Expr)
  /-- Whether a def is bound. -/
  | hasDef (name : String)
  /-- What a bound def writes when it is called. -/
  | call (name : String) (arguments : List Expr)
  /-- What a dependency writes when it is rendered with variables of its own. -/
  | includeTemplate (dependency : Nat) (vars : List (String × Expr))
  /-- What a def of a dependency writes when it is called in a copy of the scope. -/
  | importCall (dependency : Nat) (name : String) (arguments : List Expr)

/-- A statement of a template body. -/
inductive Stmt where
  /-- Writes values as they are, once all are evaluated. -/
  | write (exprs : List Expr)
  /-- Writes values, escaped unless they are safe, once all are evaluated. -/
  | writeEscaped (exprs : List Expr)
  /-- Writes the arguments of the def that runs, escaped. -/
  | writeArguments
  /-- Writes attributes, once all values are evaluated. -/
  | attributes (pairs : List (String × Expr))
  /-- Writes the fields of an object as attributes. -/
  | attributesOf (expr : Expr)
  /-- Runs a body for every element of an array. -/
  | forEach (expr : Expr) (complaint : Complaint) (body : List Stmt)
  /-- Runs one of two bodies. -/
  | cond (expr : Expr) (whenTrue whenFalse : List Stmt)
  /-- Evaluates an expression for its effect. -/
  | discard (expr : Expr)
  /-- Gives up with a message. -/
  | fail (message : String)

end

/-- The statements of a template body. -/
abbrev Body := List Stmt

namespace Expr

/-- A text written in a body. -/
def text (plain : String) : Expr :=
  .literal (.text plain)

end Expr

namespace Stmt

/-- Writes a text of the body. -/
def text (plain : String) : Stmt :=
  .write [.text plain]

end Stmt

end Stencil
