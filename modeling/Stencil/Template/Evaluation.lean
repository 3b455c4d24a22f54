import Stencil.Template.Rendering

/-!
# The meaning of template bodies

Expressions and statements are evaluated by recursion on their form, given what it means to invoke
a def. Invoking a def is in turn running its body, with one level of nesting less to spend; so a
call that is nested more deeply than the depth granted does not end.

Effects happen in the order of writing. The arguments of a call, the variables of an include and
the values of one output statement are all evaluated before anything else is done with them.
-/

namespace Stencil

/-- What a body sees apart from its scope. -/
structure Frame where
  /-- The arguments of the def that runs. -/
  arguments : List Json := []
  /-- The templates that the body can use. -/
  dependencies : List Template := []
  /-- The current item of the innermost loop, and its position. -/
  current : Option (Json × Nat) := none

namespace Frame

/-- An argument of the def that runs. -/
def argument (frame : Frame) (index : Nat) : Rendering Json :=
  match frame.arguments[index]? with
  | some value => pure value
  | none => .fail (.missingArgument index)

/-- A template that the body can use. -/
def dependency (frame : Frame) (index : Nat) : Rendering Template :=
  match frame.dependencies[index]? with
  | some template => pure template
  | none => .fail (.missingDependency index)

/-- The current item of the innermost loop, and its position. -/
def currentItem (frame : Frame) : Rendering (Json × Nat) :=
  match frame.current with
  | some current => pure current
  | none => .fail .noCurrentItem

end Frame

/-- What it means to invoke a def with arguments. -/
abbrev Invocation := Def → List Json → Rendering Buffer

namespace Rendering

/-- Calls the def bound under a name. -/
def callDef (invoke : Invocation) (name : String) (arguments : List Json) : Rendering Buffer := do
  match (← scope).def? name with
  | some definition => invoke definition arguments
  | none => fail (.defNotFound name)

/-- Runs the entry point bound in the scope, for a template of this identifier. -/
def runMain (invoke : Invocation) (template : String) : Rendering Buffer := do
  match (← scope).def? Template.mainName with
  | some main => do
      note [.rendering template]
      invoke main []
  | none => fail (.defNotFound Template.mainName)

/-- Renders a template in a new scope over variables, with the caller's globals and policy. -/
def includeTemplate (invoke : Invocation) (template : Template) (vars : Table Json) :
    Rendering Buffer := do
  let caller ← scope
  let own : Scope := { vars, globals := caller.globals, policy := caller.policy }
  note (template.bindingEvents own)
  inScope (template.bindInto own) (runMain invoke template.id)

/-- Binds a template into a copy of the caller's scope and calls one of the defs this adds. -/
def importCall (invoke : Invocation) (template : Template) (name : String)
    (arguments : List Json) : Rendering Buffer := do
  let caller ← scope
  let exported := template.exports caller
  note (template.bindingEvents caller ++ [.imported exported.length template.id])
  if exported.contains name then
    inScope (template.bindInto caller) (callDef invoke name arguments)
  else fail (.defNotFound name)

end Rendering

/-- The elements of an array that a loop runs over. -/
def Value.items (value : Value) (complaint : Complaint) : Rendering (List Json) :=
  match value.toJson with
  | .array items => pure items
  | data => .fail (.notAnArray complaint data)

/-- The fields of an object that are written as attributes. -/
def Value.fields (value : Value) : Rendering (List (String × Json)) :=
  match value.toJson with
  | .object fields => pure fields
  | _ => .fail .attributesNotAnObject

open Rendering

mutual

/-- The value of an expression. -/
def Expr.eval (invoke : Invocation) (frame : Frame) : Expr → Rendering Value
  | .literal value => pure value
  | .parse source asText => do
      let data ← ofExcept (Json.read source)
      return if asText then .jsonText data else .json data
  | .buffer body => do
      return .buffer (← collect (Stmt.runAll invoke frame body))
  | .markupOf body => do
      return .markup (← collect (Stmt.runAll invoke frame body)).toMarkup
  | .escape expr => do
      return .markup (← expr.eval invoke frame).toContent.escape
  | .lookup name => do
      return .ofOption (← lookup name)
  | .lookupOrNull name => do
      return .json (← lookupOrNull name)
  | .orElse first second => do
      match ← first.eval invoke frame with
      | .undefined => second.eval invoke frame
      | value => return value
  | .argument index => do
      return .json (← frame.argument index)
  | .item => do
      return .json (← frame.currentItem).1
  | .index => do
      return .int (← frame.currentItem).2
  | .isOdd => do
      return .bool ((← frame.currentItem).2 % 2 = 1)
  | .add name expr => do
      let value ← expr.eval invoke frame
      return .bool (← addVar name value.toJson)
  | .hasDef name => do
      return .bool ((← scope).hasDef name)
  | .call name arguments => do
      let values ← Expr.evalAll invoke frame arguments
      return .buffer (← callDef invoke name (values.map Value.toJson))
  | .includeTemplate dependency vars => do
      let values ← Expr.evalPairs invoke frame vars
      let template ← frame.dependency dependency
      let own := Table.ofList (values.map fun (name, value) => (name, value.toJson))
      return .buffer (← includeTemplate invoke template own)
  | .importCall dependency name arguments => do
      let values ← Expr.evalAll invoke frame arguments
      let template ← frame.dependency dependency
      return .buffer (← importCall invoke template name (values.map Value.toJson))

/-- The values of expressions, evaluated in order. -/
def Expr.evalAll (invoke : Invocation) (frame : Frame) : List Expr → Rendering (List Value)
  | [] => pure []
  | expr :: exprs => do
      let value ← expr.eval invoke frame
      let values ← Expr.evalAll invoke frame exprs
      return value :: values

/-- The values of named expressions, evaluated in order. -/
def Expr.evalPairs (invoke : Invocation) (frame : Frame) :
    List (String × Expr) → Rendering (List (String × Value))
  | [] => pure []
  | (name, expr) :: pairs => do
      let value ← expr.eval invoke frame
      let values ← Expr.evalPairs invoke frame pairs
      return (name, value) :: values

/-- Runs a statement. -/
def Stmt.run (invoke : Invocation) (frame : Frame) : Stmt → Rendering Unit
  | .write exprs => do
      let values ← Expr.evalAll invoke frame exprs
      modifyPage (·.writeAll (values.map Value.toContent))
  | .writeEscaped exprs => do
      let values ← Expr.evalAll invoke frame exprs
      modifyPage (·.writeAllEscaped (values.map Value.toContent))
  | .writeArguments =>
      modifyPage (·.writeAllEscaped (frame.arguments.map fun argument => .text argument.text))
  | .attributes pairs => do
      let values ← Expr.evalPairs invoke frame pairs
      let attributes := values.map fun (name, value) => (name, value.toAttribute)
      modifyPage (·.splice (.ofAttributes attributes))
  | .attributesOf expr => do
      let fields ← (← expr.eval invoke frame).fields
      let attributes := fields.map fun (name, value) => (name, value.toAttribute)
      modifyPage (·.splice (.ofAttributes attributes))
  | .forEach expr complaint body => do
      let items ← (← expr.eval invoke frame).items complaint
      forEach (fun item position =>
        Stmt.runAll invoke { frame with current := some (item, position) } body) items 0
  | .cond expr whenTrue whenFalse => do
      if (← expr.eval invoke frame).isTruthy then Stmt.runAll invoke frame whenTrue
      else Stmt.runAll invoke frame whenFalse
  | .discard expr => do
      let _ ← expr.eval invoke frame
  | .fail message => .fail (.raised message)

/-- Runs statements in order. -/
def Stmt.runAll (invoke : Invocation) (frame : Frame) : List Stmt → Rendering Unit
  | [] => pure ()
  | stmt :: stmts => do
      stmt.run invoke frame
      Stmt.runAll invoke frame stmts

end

/-- What a def writes, if its calls are nested no more deeply than `depth`. -/
def Def.invoke : Nat → Def → List Json → Rendering Buffer
  | 0, _, _ => .unending
  | depth + 1, definition, arguments =>
      .collect (Stmt.runAll (Def.invoke depth)
        { arguments, dependencies := definition.dependencies } definition.body)

end Stencil
