import Stencil.Proofs.Parts
import Stencil.Proofs.Steps

/-!
# Properties that bodies take over from their steps

Running a body consists of a few basic steps and a few ways of joining them. A property of steps
that holds of the basic ones and is kept by joining them (`Rendering.Compositional`) holds of every
body, if it holds of the additions, calls, includes and imports that stand in the body
(`Part.Admits`). Whether it holds of these is all that is left to be shown about a property.
-/

namespace Stencil

namespace Rendering

/-- A property of steps that holds of the basic steps and is kept by joining steps. -/
structure Compositional (holds : (α : Type) → Rendering α → Prop) : Prop where
  pure : ∀ {α : Type} (value : α), holds α (pure value)
  fail : ∀ {α : Type} (error : RenderError), holds α (fail error)
  scope : holds Scope scope
  note : ∀ events, holds Unit (note events)
  modifyPage : ∀ change, holds Unit (modifyPage change)
  bind : ∀ {α β : Type} {first : Rendering α} {next : α → Rendering β}, holds α first →
    (∀ value, holds β (next value)) → holds β (first >>= next)
  collect : ∀ {step : Rendering Unit}, holds Unit step → holds Buffer (collect step)

namespace Compositional

variable {holds : (α : Type) → Rendering α → Prop} {α β : Type}

theorem reads (compositional : Compositional holds) {step : Rendering α} {promise : α → Prop}
    (reads : Reads promise step) : holds α step := by
  cases reads with
  | value _ => exact compositional.pure _
  | error _ => exact compositional.fail _

/-- What was promised of a value may be used behind the step that gave it. -/
theorem reads_bind (compositional : Compositional holds) {step : Rendering α}
    {promise : α → Prop} {next : α → Rendering β} (reads : Reads promise step)
    (nexts : ∀ value, promise value → holds β (next value)) : holds β (step >>= next) := by
  cases reads with
  | value promised => exact nexts _ promised
  | error _ => exact compositional.fail _

theorem map (compositional : Compositional holds) {step : Rendering α} (begun : holds α step)
    (change : α → β) : holds β (step >>= fun value => Pure.pure (change value)) :=
  compositional.bind begun fun _ => compositional.pure _

theorem readName (compositional : Compositional holds)
    (read : Scope → String → Except RenderError α) (name : String) :
    holds α (readName read name) := by
  apply compositional.bind compositional.scope
  intro scope
  cases read scope name with
  | error error => exact compositional.fail error
  | ok value =>
      cases scope.resolve name with
      | none => exact compositional.map (compositional.note _) fun _ => value
      | some _ => exact compositional.pure value

theorem forEach (compositional : Compositional holds) {step : α → Nat → Rendering Unit}
    (steps : ∀ item position, holds Unit (step item position)) (items : List α)
    (position : Nat) : holds Unit (forEach step items position) := by
  induction items generalizing position with
  | nil => exact compositional.pure ()
  | cons item items ih => exact compositional.bind (steps item position) fun _ => ih (position + 1)

/-- Apart from reading the scope, an include happens in a scope of its own. -/
theorem includeTemplate (compositional : Compositional holds) {invoke : Invocation}
    {template : Template} {vars : Table Json}
    (inside : ∀ globals policy, holds Buffer
      (inScope (template.bindInto { vars, globals, policy }) (runMain invoke template.id))) :
    holds Buffer (includeTemplate invoke template vars) := by
  apply compositional.bind compositional.scope
  intro caller
  apply compositional.bind (compositional.note _)
  intro _
  exact inside caller.globals caller.policy

/-- Apart from reading the scope, an import happens in a copy of it, if the name is exported. -/
theorem importCall (compositional : Compositional holds) {invoke : Invocation}
    {template : Template} {name : String} {arguments : List Json}
    (inside : ∀ caller, name ∈ template.exports caller → holds Buffer
      (inScope (template.bindInto caller) (callDef invoke name arguments))) :
    holds Buffer (importCall invoke template name arguments) := by
  apply compositional.bind compositional.scope
  intro caller
  apply compositional.bind (compositional.note _)
  intro _
  split
  · next exported => exact inside caller (List.contains_iff_mem.mp exported)
  · exact compositional.fail _

end Compositional

end Rendering

open Rendering

/-- What has to be shown of a part: the property of the step that it asks of its surroundings. -/
def Part.Admits (holds : (α : Type) → Rendering α → Prop) (invoke : Invocation)
    (dependencies : List Template) : Part → Prop
  | .expr (.add name _) => ∀ value, holds Bool (addVar name value)
  | .expr (.call name _) => ∀ arguments, holds Buffer (callDef invoke name arguments)
  | .expr (.includeTemplate _ _) => ∀ template ∈ dependencies, ∀ vars,
      holds Buffer (includeTemplate invoke template vars)
  | .expr (.importCall _ name _) => ∀ template ∈ dependencies, ∀ arguments,
      holds Buffer (importCall invoke template name arguments)
  | _ => True

mutual

theorem Expr.eval_holds {holds : (α : Type) → Rendering α → Prop} {invoke : Invocation}
    (compositional : Compositional holds) (frame : Frame) :
    (expr : Expr) → (∀ part ∈ expr.parts, part.Admits holds invoke frame.dependencies) →
      holds Value (expr.eval invoke frame)
  | .literal value, _ => compositional.pure value
  | .parse source _, _ => compositional.map (compositional.reads (Json.read_reads source)) _
  | .buffer body, admits => by
      have inside := (List.forall_mem_cons.mp admits).2
      have run := Stmt.runAll_holds compositional frame body inside
      exact compositional.map (compositional.collect run) _
  | .markupOf body, admits => by
      have inside := (List.forall_mem_cons.mp admits).2
      have run := Stmt.runAll_holds compositional frame body inside
      exact compositional.map (compositional.collect run) _
  | .escape expr, admits => by
      have inside := (List.forall_mem_cons.mp admits).2
      exact compositional.map (expr.eval_holds compositional frame inside) _
  | .lookup name, _ => compositional.map (compositional.readName _ name) _
  | .lookupOrNull name, _ => compositional.map (compositional.readName _ name) _
  | .orElse first second, admits => by
      obtain ⟨left, right⟩ := List.forall_mem_append.mp (List.forall_mem_cons.mp admits).2
      apply compositional.bind (first.eval_holds compositional frame left)
      intro value
      split
      · exact second.eval_holds compositional frame right
      · exact compositional.pure _
  | .argument index, _ => compositional.map (compositional.reads (frame.argument_reads index)) _
  | .item, _ => compositional.map (compositional.reads frame.currentItem_reads) _
  | .index, _ => compositional.map (compositional.reads frame.currentItem_reads) _
  | .isOdd, _ => compositional.map (compositional.reads frame.currentItem_reads) _
  | .add name expr, admits => by
      obtain ⟨added, inside⟩ := List.forall_mem_cons.mp admits
      apply compositional.bind (expr.eval_holds compositional frame inside)
      intro value
      exact compositional.map (added value.toJson) _
  | .hasDef _, _ => compositional.map compositional.scope _
  | .call name arguments, admits => by
      obtain ⟨called, inside⟩ := List.forall_mem_cons.mp admits
      apply compositional.bind (Expr.evalAll_holds compositional frame arguments inside)
      intro values
      exact compositional.map (called _) _
  | .includeTemplate index vars, admits => by
      obtain ⟨included, inside⟩ := List.forall_mem_cons.mp admits
      apply compositional.bind (Expr.evalPairs_holds compositional frame vars inside)
      intro values
      apply compositional.reads_bind (frame.dependency_reads index)
      intro template used
      exact compositional.map (included template used _) _
  | .importCall index name arguments, admits => by
      obtain ⟨imported, inside⟩ := List.forall_mem_cons.mp admits
      apply compositional.bind (Expr.evalAll_holds compositional frame arguments inside)
      intro values
      apply compositional.reads_bind (frame.dependency_reads index)
      intro template used
      exact compositional.map (imported template used _) _

theorem Expr.evalAll_holds {holds : (α : Type) → Rendering α → Prop} {invoke : Invocation}
    (compositional : Compositional holds) (frame : Frame) :
    (exprs : List Expr) →
      (∀ part ∈ Expr.partsOf exprs, part.Admits holds invoke frame.dependencies) →
      holds (List Value) (Expr.evalAll invoke frame exprs)
  | [], _ => compositional.pure []
  | expr :: exprs, admits => by
      obtain ⟨first, others⟩ := List.forall_mem_append.mp admits
      apply compositional.bind (expr.eval_holds compositional frame first)
      intro value
      exact compositional.map (Expr.evalAll_holds compositional frame exprs others) _

theorem Expr.evalPairs_holds {holds : (α : Type) → Rendering α → Prop} {invoke : Invocation}
    (compositional : Compositional holds) (frame : Frame) :
    (pairs : List (String × Expr)) →
      (∀ part ∈ Expr.partsOfPairs pairs, part.Admits holds invoke frame.dependencies) →
      holds (List (String × Value)) (Expr.evalPairs invoke frame pairs)
  | [], _ => compositional.pure []
  | (name, expr) :: pairs, admits => by
      obtain ⟨first, others⟩ := List.forall_mem_append.mp admits
      apply compositional.bind (expr.eval_holds compositional frame first)
      intro value
      exact compositional.map (Expr.evalPairs_holds compositional frame pairs others) _

theorem Stmt.run_holds {holds : (α : Type) → Rendering α → Prop} {invoke : Invocation}
    (compositional : Compositional holds) (frame : Frame) :
    (stmt : Stmt) → (∀ part ∈ stmt.parts, part.Admits holds invoke frame.dependencies) →
      holds Unit (stmt.run invoke frame)
  | .write exprs, admits => by
      have inside := (List.forall_mem_cons.mp admits).2
      apply compositional.bind (Expr.evalAll_holds compositional frame exprs inside)
      intro values
      exact compositional.modifyPage _
  | .writeEscaped exprs, admits => by
      have inside := (List.forall_mem_cons.mp admits).2
      apply compositional.bind (Expr.evalAll_holds compositional frame exprs inside)
      intro values
      exact compositional.modifyPage _
  | .writeArguments, _ => by
      rw [Stmt.run]
      exact compositional.modifyPage _
  | .attributes pairs, admits => by
      have inside := (List.forall_mem_cons.mp admits).2
      apply compositional.bind (Expr.evalPairs_holds compositional frame pairs inside)
      intro values
      exact compositional.modifyPage _
  | .attributesOf expr, admits => by
      have inside := (List.forall_mem_cons.mp admits).2
      apply compositional.bind (expr.eval_holds compositional frame inside)
      intro value
      apply compositional.bind (compositional.reads value.fields_reads)
      intro fields
      exact compositional.modifyPage _
  | .forEach expr complaint body, admits => by
      obtain ⟨first, repeated⟩ := List.forall_mem_append.mp (List.forall_mem_cons.mp admits).2
      apply compositional.bind (expr.eval_holds compositional frame first)
      intro value
      apply compositional.bind (compositional.reads (value.items_reads complaint))
      intro items
      -- The body is run in a frame with another item, but with the same dependencies.
      refine compositional.forEach (fun item position => ?_) items 0
      exact Stmt.runAll_holds compositional { frame with current := some (item, position) } body
        repeated
  | .cond expr whenTrue whenFalse, admits => by
      obtain ⟨first, branches⟩ := List.forall_mem_append.mp (List.forall_mem_cons.mp admits).2
      obtain ⟨left, right⟩ := List.forall_mem_append.mp branches
      apply compositional.bind (expr.eval_holds compositional frame first)
      intro value
      split
      · exact Stmt.runAll_holds compositional frame whenTrue left
      · exact Stmt.runAll_holds compositional frame whenFalse right
  | .discard expr, admits => by
      have inside := (List.forall_mem_cons.mp admits).2
      exact compositional.map (expr.eval_holds compositional frame inside) _
  | .fail _, _ => compositional.fail _

theorem Stmt.runAll_holds {holds : (α : Type) → Rendering α → Prop} {invoke : Invocation}
    (compositional : Compositional holds) (frame : Frame) :
    (stmts : List Stmt) →
      (∀ part ∈ Stmt.partsOf stmts, part.Admits holds invoke frame.dependencies) →
      holds Unit (Stmt.runAll invoke frame stmts)
  | [], _ => compositional.pure ()
  | stmt :: stmts, admits => by
      obtain ⟨first, others⟩ := List.forall_mem_append.mp admits
      apply compositional.bind (stmt.run_holds compositional frame first)
      intro _
      exact Stmt.runAll_holds compositional frame stmts others

end

/-- Invoking a def has a property if its parts admit it, with one level less to spend. -/
theorem Def.invoke_holds {holds : (α : Type) → Rendering α → Prop}
    (compositional : Compositional holds) {depth : Nat} {definition : Def}
    (admits : ∀ part ∈ definition.parts,
      part.Admits holds (Def.invoke depth) definition.dependencies) (arguments : List Json) :
    holds Buffer (Def.invoke (depth + 1) definition arguments) :=
  compositional.collect (Stmt.runAll_holds compositional
    { arguments, dependencies := definition.dependencies } definition.body admits)

end Stencil
