import Stencil.Template.Evaluation

/-!
# Depth is only a bound

The depth granted to a run decides whether it ends, and nothing else: `Def.invoke_refines` says that
a run which ends within a depth ends within every greater depth, with the same result in the same
state. The proof follows the evaluation. Every step agrees with itself wherever it ends, and the
ways of joining steps keep such an agreement.
-/

namespace Stencil

namespace Rendering

variable {α β : Type}

/-- Wherever the first step ends, the second one ends in the same way. -/
def Refines (first second : Rendering α) : Prop :=
  ∀ progress, first progress = none ∨ first progress = second progress

namespace Refines

theorem refl (step : Rendering α) : Refines step step :=
  fun _ => .inr rfl

theorem trans {first second third : Rendering α} (left : Refines first second)
    (right : Refines second third) : Refines first third := by
  intro progress
  rcases left progress with unended | same
  · exact .inl unended
  · rw [same]
    exact right progress

theorem bind {first second : Rendering α} {next other : α → Rendering β}
    (steps : Refines first second) (nexts : ∀ value, Refines (next value) (other value)) :
    Refines (first >>= next) (second >>= other) := by
  intro progress
  rw [bind_apply, bind_apply]
  rcases steps progress with unended | same
  · exact .inl (by rw [unended])
  · rw [same]
    match second progress with
    | none => exact .inl rfl
    | some (.error _, _) => exact .inr rfl
    | some (.ok value, after) => exact nexts value after

theorem collect {first second : Rendering Unit} (steps : Refines first second) :
    Refines (collect first) (collect second) := by
  intro progress
  simp only [Rendering.collect]
  rcases steps { progress with page := {} } with unended | same
  · exact .inl (by rw [unended])
  · exact .inr (by rw [same])

theorem inScope {first second : Rendering α} (steps : Refines first second) (other : Scope) :
    Refines (inScope other first) (inScope other second) := by
  intro progress
  simp only [Rendering.inScope]
  rcases steps { progress with scope := other } with unended | same
  · exact .inl (by rw [unended])
  · exact .inr (by rw [same])

theorem forEach {first second : α → Nat → Rendering Unit}
    (steps : ∀ item position, Refines (first item position) (second item position))
    (items : List α) (position : Nat) :
    Refines (forEach first items position) (forEach second items position) := by
  induction items generalizing position with
  | nil => exact refl _
  | cons item items ih => exact bind (steps item position) fun _ => ih (position + 1)

end Refines

variable {invoke other : Invocation}

theorem callDef_refines
    (invocations : ∀ definition arguments,
      Refines (invoke definition arguments) (other definition arguments))
    (name : String) (arguments : List Json) :
    Refines (callDef invoke name arguments) (callDef other name arguments) := by
  refine .bind (.refl _) fun scope => ?_
  split
  · exact invocations _ _
  · exact .refl _

theorem runMain_refines
    (invocations : ∀ definition arguments,
      Refines (invoke definition arguments) (other definition arguments))
    (template : String) : Refines (runMain invoke template) (runMain other template) := by
  refine .bind (.refl _) fun scope => ?_
  split
  · exact .bind (.refl _) fun _ => invocations _ _
  · exact .refl _

theorem includeTemplate_refines
    (invocations : ∀ definition arguments,
      Refines (invoke definition arguments) (other definition arguments))
    (template : Template) (vars : Table Json) :
    Refines (includeTemplate invoke template vars) (includeTemplate other template vars) :=
  .bind (.refl _) fun _ => .bind (.refl _) fun _ =>
    (runMain_refines invocations _).inScope _

theorem importCall_refines
    (invocations : ∀ definition arguments,
      Refines (invoke definition arguments) (other definition arguments))
    (template : Template) (name : String) (arguments : List Json) :
    Refines (importCall invoke template name arguments)
      (importCall other template name arguments) := by
  refine .bind (.refl _) fun caller => .bind (.refl _) fun _ => ?_
  split
  · exact (callDef_refines invocations _ _).inScope _
  · exact .refl _

end Rendering

open Rendering

mutual

theorem Expr.eval_refines {invoke other : Invocation}
    (invocations : ∀ definition arguments,
      Refines (invoke definition arguments) (other definition arguments))
    (frame : Frame) : (expr : Expr) →
      Refines (expr.eval invoke frame) (expr.eval other frame)
  | .literal _ => .refl _
  | .parse _ _ => .refl _
  | .buffer body =>
      .bind (.collect (Stmt.runAll_refines invocations frame body)) fun _ => .refl _
  | .markupOf body =>
      .bind (.collect (Stmt.runAll_refines invocations frame body)) fun _ => .refl _
  | .escape expr => .bind (expr.eval_refines invocations frame) fun _ => .refl _
  | .lookup _ => .refl _
  | .lookupOrNull _ => .refl _
  | .orElse first second => .bind (first.eval_refines invocations frame) fun _ => by
      split
      · exact second.eval_refines invocations frame
      · exact .refl _
  | .argument _ => .refl _
  | .item => .refl _
  | .index => .refl _
  | .isOdd => .refl _
  | .add _ expr => .bind (expr.eval_refines invocations frame) fun _ => .refl _
  | .hasDef _ => .refl _
  | .call _ arguments =>
      .bind (Expr.evalAll_refines invocations frame arguments) fun _ =>
        .bind (callDef_refines invocations _ _) fun _ => .refl _
  | .includeTemplate _ vars =>
      .bind (Expr.evalPairs_refines invocations frame vars) fun _ => .bind (.refl _) fun _ =>
        .bind (includeTemplate_refines invocations _ _) fun _ => .refl _
  | .importCall _ _ arguments =>
      .bind (Expr.evalAll_refines invocations frame arguments) fun _ => .bind (.refl _) fun _ =>
        .bind (importCall_refines invocations _ _ _) fun _ => .refl _

theorem Expr.evalAll_refines {invoke other : Invocation}
    (invocations : ∀ definition arguments,
      Refines (invoke definition arguments) (other definition arguments))
    (frame : Frame) : (exprs : List Expr) →
      Refines (Expr.evalAll invoke frame exprs) (Expr.evalAll other frame exprs)
  | [] => .refl _
  | expr :: exprs => .bind (expr.eval_refines invocations frame) fun _ =>
      .bind (Expr.evalAll_refines invocations frame exprs) fun _ => .refl _

theorem Expr.evalPairs_refines {invoke other : Invocation}
    (invocations : ∀ definition arguments,
      Refines (invoke definition arguments) (other definition arguments))
    (frame : Frame) : (pairs : List (String × Expr)) →
      Refines (Expr.evalPairs invoke frame pairs) (Expr.evalPairs other frame pairs)
  | [] => .refl _
  | (_, expr) :: pairs => .bind (expr.eval_refines invocations frame) fun _ =>
      .bind (Expr.evalPairs_refines invocations frame pairs) fun _ => .refl _

theorem Stmt.run_refines {invoke other : Invocation}
    (invocations : ∀ definition arguments,
      Refines (invoke definition arguments) (other definition arguments))
    (frame : Frame) : (stmt : Stmt) →
      Refines (stmt.run invoke frame) (stmt.run other frame)
  | .write exprs => .bind (Expr.evalAll_refines invocations frame exprs) fun _ => .refl _
  | .writeEscaped exprs => .bind (Expr.evalAll_refines invocations frame exprs) fun _ => .refl _
  | .writeArguments => .refl _
  | .attributes pairs => .bind (Expr.evalPairs_refines invocations frame pairs) fun _ => .refl _
  | .attributesOf expr => .bind (expr.eval_refines invocations frame) fun _ => .refl _
  | .forEach expr _ body =>
      .bind (expr.eval_refines invocations frame) fun _ => .bind (.refl _) fun _ =>
        .forEach (fun _ _ => Stmt.runAll_refines invocations _ body) _ _
  | .cond expr whenTrue whenFalse => .bind (expr.eval_refines invocations frame) fun _ => by
      split
      · exact Stmt.runAll_refines invocations frame whenTrue
      · exact Stmt.runAll_refines invocations frame whenFalse
  | .discard expr => .bind (expr.eval_refines invocations frame) fun _ => .refl _
  | .fail _ => .refl _

theorem Stmt.runAll_refines {invoke other : Invocation}
    (invocations : ∀ definition arguments,
      Refines (invoke definition arguments) (other definition arguments))
    (frame : Frame) : (stmts : List Stmt) →
      Refines (Stmt.runAll invoke frame stmts) (Stmt.runAll other frame stmts)
  | [] => .refl _
  | stmt :: stmts => .bind (stmt.run_refines invocations frame) fun _ =>
      Stmt.runAll_refines invocations frame stmts

end

/-- One level more keeps every run that has ended. -/
theorem Def.invoke_refines_succ (depth : Nat) (definition : Def) (arguments : List Json) :
    Refines (Def.invoke depth definition arguments)
      (Def.invoke (depth + 1) definition arguments) := by
  induction depth generalizing definition arguments with
  | zero => exact fun _ => .inl rfl
  | succ depth ih => exact .collect (Stmt.runAll_refines ih _ _)

/-- A run that ends within a depth ends in the same way within every greater depth. -/
theorem Def.invoke_refines {depth greater : Nat} (le : depth ≤ greater) (definition : Def)
    (arguments : List Json) :
    Refines (Def.invoke depth definition arguments)
      (Def.invoke greater definition arguments) := by
  induction le with
  | refl => exact .refl _
  | step _ ih => exact ih.trans (Def.invoke_refines_succ _ definition arguments)

end Stencil
