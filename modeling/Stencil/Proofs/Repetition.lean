import Stencil.Proofs.Composition
import Stencil.Proofs.Journal
import Stencil.Proofs.Writing

/-!
# Renders that leave nothing behind

A template whose own bodies add no names can be rendered again and again with the same result. What
it includes or imports may add names freely: an include runs in a scope of its own and an import in
a copy, so only the defs bound in the scope itself can add to it. An imported def may call back into
these defs, but that runs in the copy, too.

So the property of steps to follow is that a step taken in one given scope ends in that scope
(`Rendering.Keeps`). A step that is taken elsewhere has it, whatever the step does.
-/

namespace Stencil

/-- Whether a part adds a name to the context. -/
def Part.isAddition : Part → Bool
  | .expr (.add _ _) => true
  | _ => false

namespace Rendering

/-- A step that is taken in a scope and ends leaves the scope as it was, even if it fails. -/
def Keeps (scope : Scope) (α : Type) (step : Rendering α) : Prop :=
  ∀ progress result after, step progress = some (result, after) → progress.scope = scope →
    after.scope = scope

/-- A step that always ends, and in the scope it was taken in. -/
theorem keeps_of_unmoved {α : Type} {step : Rendering α} (scope : Scope)
    {result : Progress → Except RenderError α} {next : Progress → Progress}
    (taken : ∀ progress, step progress = some (result progress, next progress))
    (unmoved : ∀ progress, (next progress).scope = progress.scope) : Keeps scope α step := by
  intro progress outcome after ended at_start
  rw [taken] at ended
  cases ended
  rw [unmoved, at_start]

theorem keeps_compositional (scope : Scope) : Compositional (Keeps scope) where
  pure _ := keeps_of_unmoved scope (fun _ => rfl) fun _ => rfl
  fail _ := keeps_of_unmoved scope (fun _ => rfl) fun _ => rfl
  scope := keeps_of_unmoved scope (fun _ => rfl) fun _ => rfl
  note _ := keeps_of_unmoved scope (fun _ => rfl) fun _ => rfl
  modifyPage _ := keeps_of_unmoved scope (fun _ => rfl) fun _ => rfl
  bind first_keeps nexts_keep := by
    intro progress result after ended at_start
    rcases bind_eq_some ended with ⟨error, begun, _⟩ | ⟨value, middle, begun, continued⟩
    · exact first_keeps _ _ _ begun at_start
    · exact nexts_keep value _ _ _ continued (first_keeps _ _ _ begun at_start)
  collect step_keeps := by
    intro progress result after ended at_start
    obtain ⟨outcome, inner, begun, _, rfl⟩ := collect_eq_some ended
    have kept : inner.scope = scope := step_keeps _ _ _ begun at_start
    exact kept

variable {scope : Scope} {invoke : Invocation}

/-- Whatever is done in another scope leaves this one as it is. -/
theorem inScope_keeps {α : Type} (scope other : Scope) (step : Rendering α) :
    Keeps scope α (inScope other step) := by
  intro progress result after ended at_start
  obtain ⟨inner, _, rfl⟩ := inScope_eq_some ended
  exact at_start

/-- A step that reads the scope first may be told which scope it is. -/
theorem keeps_of_scope {α : Type} {next : Scope → Rendering α}
    (next_keeps : Keeps scope α (next scope)) : Keeps scope α (Rendering.scope >>= next) := by
  intro progress result after ended at_start
  rw [bind_apply, scope_apply, at_start] at ended
  exact next_keeps progress result after ended at_start

/-- A call runs a def of the scope, if there is one. -/
theorem callDef_keeps
    (invocations : ∀ name definition arguments, scope.def? name = some definition →
      Keeps scope Buffer (invoke definition arguments))
    (name : String) (arguments : List Json) :
    Keeps scope Buffer (callDef invoke name arguments) := by
  apply keeps_of_scope
  cases found : scope.def? name with
  | none => exact (keeps_compositional scope).fail _
  | some definition => exact invocations name definition arguments found

theorem runMain_keeps
    (invocations : ∀ name definition arguments, scope.def? name = some definition →
      Keeps scope Buffer (invoke definition arguments))
    (template : String) : Keeps scope Buffer (runMain invoke template) := by
  have compositional := keeps_compositional scope
  apply keeps_of_scope
  cases found : scope.def? Template.mainName with
  | none => exact compositional.fail _
  | some main =>
      apply compositional.bind (compositional.note _)
      intro _
      exact invocations _ main [] found

end Rendering

open Rendering

/-- No def that is bound in a scope adds names to it. -/
def Scope.AddsNothing (scope : Scope) : Prop :=
  ∀ name definition, scope.def? name = some definition →
    definition.isFreeOf Part.isAddition = true

/-- The defs of a scope that adds nothing leave the scope as it is, at every depth. -/
theorem Def.invoke_keeps {scope : Scope} (additionless : scope.AddsNothing) (depth : Nat)
    (name : String) (definition : Def) (arguments : List Json)
    (bound : scope.def? name = some definition) :
    Keeps scope Buffer (Def.invoke depth definition arguments) := by
  induction depth generalizing name definition arguments with
  | zero => exact fun _ _ _ ended => nomatch ended
  | succ depth ih =>
      have compositional := keeps_compositional scope
      have free := Def.isFreeOf_iff.mp (additionless name definition bound)
      apply Def.invoke_holds compositional
      intro part member
      have not_addition := free part member
      unfold Part.Admits
      split
      · cases not_addition
      · exact callDef_keeps ih _
      · intro template _ vars
        exact compositional.includeTemplate fun _ _ => inScope_keeps scope _ _
      · intro template _ arguments
        exact compositional.importCall fun _ _ => inScope_keeps scope _ _
      · trivial

namespace Bound

variable {bound later : Bound}

theorem main_keeps (additionless : bound.scope.AddsNothing) {depth : Nat}
    {run : Run Buffer Scope}
    (ended : (runMain (Def.invoke depth) bound.id).run bound.scope = some run) :
    run.state = bound.scope := by
  obtain ⟨⟨result, after⟩, ran, rfl⟩ := Option.map_eq_some_iff.mp ended
  exact runMain_keeps (Def.invoke_keeps additionless depth) bound.id _ _ _ ran rfl

theorem renderBuffer_keeps (additionless : bound.scope.AddsNothing) {depth : Nat}
    {run : Run Buffer Bound} (ended : bound.renderBuffer depth = some run) :
    run.state = bound := by
  obtain ⟨inner, ran, rfl⟩ := Option.map_eq_some_iff.mp ended
  simp only [Run.mapState, main_keeps additionless ran]

/-- A render does not depend on the host, and leaves the host alone. -/
theorem renderBuffer_of_host (additionless : bound.scope.AddsNothing) (host : Option Host)
    (depth : Nat) :
    renderBuffer { bound with host } depth =
      (bound.renderBuffer depth).map fun run => { run with state := { bound with host } } := by
  simp only [renderBuffer]
  cases ran : (runMain (Def.invoke depth) bound.id).run bound.scope with
  | none => rfl
  | some run =>
      have kept : run.state = bound.scope := main_keeps additionless ran
      simp [Run.mapState, kept]

/-- An insertion may change what the host has been asked for, and nothing else. -/
theorem insert_keeps (additionless : bound.scope.AddsNothing) {depth : Nat}
    {placement : Placement} {target : String} {run : Run Unit Bound}
    (attached : bound.hasHost = true)
    (ended : bound.insert depth placement target = some run) :
    run.state = { bound with host := run.state.host } := by
  obtain ⟨host, attached⟩ := Option.isSome_iff_exists.mp attached
  simp only [insert, attached] at ended
  obtain ⟨rendered, begun, rfl⟩ := Option.map_eq_some_iff.mp ended
  obtain ⟨written, written_ended, rfl⟩ := Option.map_eq_some_iff.mp begun
  have kept : written.state = bound := renderBuffer_keeps additionless written_ended
  simp only [Run.map, kept]
  split <;> rfl

theorem Rendered.keeps {actions : List Action} (rendered : bound.Rendered actions later)
    (additionless : bound.scope.AddsNothing) : later = { bound with host := later.host } := by
  cases rendered with
  | buffer ended => rw [renderBuffer_keeps additionless ended]
  | text ended =>
      obtain ⟨written, begun, rfl⟩ := Option.map_eq_some_iff.mp ended
      have kept : written.state = bound := renderBuffer_keeps additionless begun
      simp only [Run.map, kept]
  | markup ended =>
      obtain ⟨written, begun, rfl⟩ := Option.map_eq_some_iff.mp ended
      have kept : written.state = bound := renderBuffer_keeps additionless begun
      simp only [Run.map, kept]
  | insertion attached ended => exact insert_keeps additionless attached ended

theorem Session.keeps {actions : List Action} (session : bound.Session actions later)
    (additionless : bound.scope.AddsNothing) : later = { bound with host := later.host } := by
  induction session with
  | nil => rfl
  | cons rendered _ ih =>
      have first := rendered.keeps additionless
      rw [first] at ih
      exact ih additionless

/--
A template whose bound defs add nothing can be rendered any number of times, whatever the templates
it includes and imports add: after renders in any form, successful or not, the scope is exactly what
it was, and every further render ends as the first one did, with the same result.
-/
theorem additionless_renders_repeat (bound later : Bound) (actions : List Action)
    (additionless : bound.scope.AddsNothing) (session : bound.Session actions later) :
    later.scope = bound.scope ∧
    (∀ depth, later.renderBuffer depth =
      (bound.renderBuffer depth).map fun run => { run with state := later }) ∧
    (∀ depth, later.render depth =
      (bound.render depth).map fun run => { run with state := later }) ∧
    ∀ outcome, later.EndsWith outcome ↔ bound.EndsWith outcome := by
  have kept := session.keeps additionless
  have scopes : later.scope = bound.scope := by rw [kept]
  have buffers : ∀ depth, later.renderBuffer depth =
      (bound.renderBuffer depth).map fun run => { run with state := later } := by
    intro depth
    rw [kept]
    exact renderBuffer_of_host additionless later.host depth
  have texts : ∀ depth, later.render depth =
      (bound.render depth).map fun run => { run with state := later } := by
    intro depth
    rw [render, render, buffers, Option.map_map, Option.map_map]
    rfl
  refine ⟨scopes, buffers, texts, fun outcome => ⟨?_, ?_⟩⟩
  · rintro ⟨depth, run, ended, rfl⟩
    rw [texts] at ended
    obtain ⟨first, begun, rfl⟩ := Option.map_eq_some_iff.mp ended
    exact ⟨depth, first, begun, rfl⟩
  · rintro ⟨depth, run, ended, rfl⟩
    exact ⟨depth, { run with state := later }, by rw [texts, ended]; rfl, rfl⟩

/-- A log that keeps the visitor it is told of, and has its caller frame what it shows of one. -/
def visitorLog : Template :=
  .root "log" (.mk [
    .discard (.add "seen" (.lookupOrNull "name")),
    .writeEscaped [.lookup "seen"]] []) [
      ("entry", .mk [
        .discard (.add "seen" (.argument 0)),
        .write [.call "frame" []]] [])]

/-- A reception that includes the log, imports an entry of it and has seen nobody by itself. -/
def reception : Bound :=
  (Template.root "reception" (.mk [
    .write [.includeTemplate 0 [("name", .lookup "visitor")]],
    .write [.importCall 0 "entry" [.text "Bob"]],
    .writeEscaped [.lookup "seen"]] [visitorLog]) [
      ("frame", .mk [.writeEscaped [.lookup "seen", .lookup "visitor"]] [])]).bind
    { vars := .ofList [("visitor", .string "Ada")] }

/-- The reception can be rendered twice, as the log adds to its own scope and to a copy. -/
theorem reception_renders_repeat :
    ∃ actions later run, reception.Session actions later ∧ later.scope = reception.scope ∧
      reception.render 3 = some run ∧ run.outcome.toOption = some "AdaBobAda" ∧
      later.render 3 = some { run with state := later } := by
  have text : ((reception.render 3).bind fun run => run.outcome.toOption) = some "AdaBobAda" := by
    decide +kernel
  have additionless : reception.scope.AddsNothing := by
    have all : reception.scope.defs.entries.all
        (fun entry => entry.2.isFreeOf Part.isAddition) = true := by
      decide +kernel
    intro name definition found
    exact List.all_eq_true.mp all (name, definition) (Table.mem_of_get? found)
  obtain ⟨run, ended, outcome⟩ := Option.bind_eq_some_iff.mp text
  have first : reception.Session (reception.actions 3 ++ []) run.state :=
    .cons (.text ended) (.nil _)
  obtain ⟨scopes, _, texts, _⟩ :=
    additionless_renders_repeat reception run.state _ additionless first
  exact ⟨_, run.state, run, first, scopes, ended, outcome, by rw [texts, ended]; rfl⟩

end Bound

end Stencil
