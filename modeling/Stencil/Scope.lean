import Stencil.Json.Reader
import Stencil.Template.Basic

/-!
# Scopes

A scope is what a running body sees by name: the variables of its context, the defs bound into it,
and globals to fall back to. Both variables and defs are only ever added; a name that is taken keeps
its meaning. What a lookup does about an unknown name is decided by the scope's policy.
-/

namespace Stencil

/-- What a lookup does about a name that is neither in the context nor in the globals. -/
inductive Policy where
  /-- The name has no value. -/
  | lenient
  /-- The lookup fails. -/
  | strict
  deriving DecidableEq, Repr

/-- What a running body sees by name. -/
structure Scope where
  /-- The variables of the context. -/
  vars : Table Json
  /-- The defs that can be called. -/
  defs : Table Def := ∅
  /-- The variables to fall back to. -/
  globals : Table Json := ∅
  /-- What a lookup does about an unknown name. -/
  policy : Policy := .lenient

namespace Scope

/-- The value of a name in the context, or else in the globals. -/
def resolve (scope : Scope) (name : String) : Option Json :=
  scope.vars.get? name <|> scope.globals.get? name

/-- The value of a name; an unknown name has none, or is an error under a strict policy. -/
def lookup (scope : Scope) (name : String) : Except RenderError (Option Json) :=
  match scope.resolve name, scope.policy with
  | some value, _ => .ok (some value)
  | none, .lenient => .ok none
  | none, .strict => .error (.nameNotFound name)

/-- The value of a name, with null for an unknown name that has none. -/
def lookupOrNull (scope : Scope) (name : String) : Except RenderError Json :=
  (scope.lookup name).map fun found => found.getD .null

/-- Whether the context has a variable. -/
def hasVar (scope : Scope) (name : String) : Bool :=
  scope.vars.contains name

/-- A scope with a variable, unless the context already has one of that name. -/
def addVar (scope : Scope) (name : String) (value : Json) : Scope :=
  { scope with vars := scope.vars.insertNew name value }

/-- Adds a variable unless the context already has one of that name; whether it was stored. -/
def storeVar (scope : Scope) (name : String) (value : Json) : Bool × Scope :=
  (!scope.hasVar name, scope.addVar name value)

/-- The def bound under a name. -/
def def? (scope : Scope) (name : String) : Option Def :=
  scope.defs.get? name

/-- Whether a def is bound under a name. -/
def hasDef (scope : Scope) (name : String) : Bool :=
  scope.defs.contains name

/-- A scope with a def, unless one is bound under that name already. -/
def addDef (scope : Scope) (name : String) (definition : Def) : Scope :=
  { scope with defs := scope.defs.insertNew name definition }

/-- Adds a def unless one is bound under that name already; whether it was stored. -/
def storeDef (scope : Scope) (name : String) (definition : Def) : Bool × Scope :=
  (!scope.hasDef name, scope.addDef name definition)

theorem lookup_of_resolve {scope : Scope} {name : String} {value : Json}
    (found : scope.resolve name = some value) : scope.lookup name = .ok (some value) := by
  simp only [lookup, found]

theorem get?_addVar (scope : Scope) (name other : String) (value : Json) :
    (scope.addVar name value).vars.get? other =
      if other = name then some ((scope.vars.get? name).getD value)
      else scope.vars.get? other :=
  scope.vars.get?_insertNew name other value

end Scope

/-- The value that a JSON text stands for. -/
def Json.read (text : String) : Except RenderError Json :=
  (Json.parse text).mapError .malformedJson

/-- The fields of a JSON text that has to be an object. -/
def Json.parseObject (malformed : Json.SyntaxError → RenderError) (text : String) :
    Except RenderError (Table Json) :=
  match Json.parse text with
  | .error error => .error (malformed error)
  | .ok (.object fields) => .ok (.ofList fields)
  | .ok value => .error (.notAnObject value)

/-- The globals written as a JSON text. -/
def Scope.readGlobals (text : String) : Except RenderError (Table Json) :=
  Json.parseObject .malformedGlobals text

/-- A scope without defs over the context written as a JSON text. -/
def Scope.read (text : String) (globals : Table Json) : Except RenderError Scope :=
  (Json.parseObject .malformedContext text).map fun vars => { vars, globals }

end Stencil
