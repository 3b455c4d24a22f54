import Stencil.Proofs.Replay
import Stencil.Proofs.Steps

/-!
# The journal of a run

The journal of a step lists the actions it takes on the scope it runs in, in order. What an
include or an imported def does in a scope of its own is not in the journal of the caller; what a
called def does is. Where a step fails its journal ends.

A journal accounts for all that becomes of a scope: it leads from the scope at the start of a step
to the scope at the end, whether the step succeeds or fails (`Rendering.Records`). This carries over
to any number of renders of a bound template (`Bound.Session`).
-/

namespace Stencil

/-- The actions of a step on its scope, by where the step starts. -/
abbrev Journal := Progress → List Action

namespace Journal

variable {α : Type}

/-- The journal of a step that takes no action. -/
def silent : Journal :=
  fun _ => []

/-- The journal of two steps in a row; the second is not taken if the first fails. -/
def andThen (journal : Journal) (step : Rendering α) (next : α → Journal) : Journal :=
  fun progress =>
    journal progress ++
      match step progress with
      | some (.ok value, after) => next value after
      | _ => []

/-- The journal of a step that writes to a page of its own. -/
def collect (journal : Journal) : Journal :=
  fun progress => journal { progress with page := {} }

/-- The journal of a lookup. -/
def lookup (name : String) : Journal :=
  fun progress =>
    match Rendering.lookup name progress with
    | some (outcome, _) => [.lookup name (progress.scope.hasVar name) outcome]
    | none => []

/-- The journal of an addition. -/
def add (name : String) (value : Json) : Journal :=
  fun progress =>
    match Rendering.addVar name value progress with
    | some (.ok stored, _) => [.add name value stored]
    | _ => []

/-- The journal of a step for every element of a list. -/
def forEach (step : α → Nat → Rendering Unit) (journal : α → Nat → Journal) :
    List α → Nat → Journal
  | [], _ => silent
  | item :: items, position =>
      (journal item position).andThen (step item position) fun _ =>
        forEach step journal items (position + 1)

/-- The journals of invoking defs. -/
abbrev OfDefs := Def → List Json → Journal

/-- The journal of calling the def bound under a name. -/
def callDef (journals : OfDefs) (name : String) (arguments : List Json) : Journal :=
  silent.andThen Rendering.scope fun scope =>
    match scope.def? name with
    | some definition => journals definition arguments
    | none => silent

/-- The journal of running the entry point. -/
def runMain (journals : OfDefs) (template : String) : Journal :=
  silent.andThen Rendering.scope fun scope =>
    match scope.def? Template.mainName with
    | some main => silent.andThen (Rendering.note [.rendering template]) fun _ => journals main []
    | none => silent

end Journal

mutual

/-- The journal of evaluating an expression. -/
def Expr.journal (invoke : Invocation) (journals : Journal.OfDefs) (frame : Frame) :
    Expr → Journal
  | .literal _ | .parse _ _ | .argument _ | .item | .index | .isOdd | .hasDef _ => .silent
  | .buffer body | .markupOf body => (Stmt.journalAll invoke journals frame body).collect
  | .escape expr => expr.journal invoke journals frame
  | .lookup name | .lookupOrNull name => .lookup name
  | .orElse first second =>
      (first.journal invoke journals frame).andThen (first.eval invoke frame) fun
        | .undefined => second.journal invoke journals frame
        | _ => .silent
  | .add name expr =>
      (expr.journal invoke journals frame).andThen (expr.eval invoke frame) fun value =>
        .add name value.toJson
  | .call name arguments =>
      (Expr.journalAll invoke journals frame arguments).andThen
        (Expr.evalAll invoke frame arguments) fun values =>
          .callDef journals name (values.map Value.toJson)
  -- The template runs in a scope of its own.
  | .includeTemplate _ vars => Expr.journalPairs invoke journals frame vars
  -- The def runs in a copy of the scope.
  | .importCall _ _ arguments => Expr.journalAll invoke journals frame arguments

/-- The journal of evaluating expressions in order. -/
def Expr.journalAll (invoke : Invocation) (journals : Journal.OfDefs) (frame : Frame) :
    List Expr → Journal
  | [] => .silent
  | expr :: exprs =>
      (expr.journal invoke journals frame).andThen (expr.eval invoke frame) fun _ =>
        Expr.journalAll invoke journals frame exprs

/-- The journal of evaluating named expressions in order. -/
def Expr.journalPairs (invoke : Invocation) (journals : Journal.OfDefs) (frame : Frame) :
    List (String × Expr) → Journal
  | [] => .silent
  | (_, expr) :: pairs =>
      (expr.journal invoke journals frame).andThen (expr.eval invoke frame) fun _ =>
        Expr.journalPairs invoke journals frame pairs

/-- The journal of running a statement. -/
def Stmt.journal (invoke : Invocation) (journals : Journal.OfDefs) (frame : Frame) :
    Stmt → Journal
  | .write exprs | .writeEscaped exprs => Expr.journalAll invoke journals frame exprs
  | .writeArguments | .fail _ => .silent
  | .attributes pairs => Expr.journalPairs invoke journals frame pairs
  | .attributesOf expr | .discard expr => expr.journal invoke journals frame
  | .forEach expr complaint body =>
      (expr.journal invoke journals frame).andThen (expr.eval invoke frame) fun value =>
        Journal.silent.andThen (value.items complaint) fun items =>
          .forEach
            (fun item position =>
              Stmt.runAll invoke { frame with current := some (item, position) } body)
            (fun item position =>
              Stmt.journalAll invoke journals { frame with current := some (item, position) } body)
            items 0
  | .cond expr whenTrue whenFalse =>
      (expr.journal invoke journals frame).andThen (expr.eval invoke frame) fun value =>
        if value.isTruthy then Stmt.journalAll invoke journals frame whenTrue
        else Stmt.journalAll invoke journals frame whenFalse

/-- The journal of running statements in order. -/
def Stmt.journalAll (invoke : Invocation) (journals : Journal.OfDefs) (frame : Frame) :
    List Stmt → Journal
  | [] => .silent
  | stmt :: stmts =>
      (stmt.journal invoke journals frame).andThen (stmt.run invoke frame) fun _ =>
        Stmt.journalAll invoke journals frame stmts

end

/-- The journal of invoking a def. -/
def Def.journal : Nat → Def → List Json → Journal
  | 0, _, _ => .silent
  | depth + 1, definition, arguments =>
      (Stmt.journalAll (Def.invoke depth) (Def.journal depth)
        { arguments, dependencies := definition.dependencies } definition.body).collect

/-- The actions that a render of a bound template takes on its scope. -/
def Bound.actions (bound : Bound) (depth : Nat) : List Action :=
  Journal.runMain (Def.journal depth) bound.id { scope := bound.scope }

/-- Wherever a step ends, its journal leads there. -/
def Rendering.Records {α : Type} (step : Rendering α) (journal : Journal) : Prop :=
  ∀ progress result after, step progress = some (result, after) →
    progress.scope.Replays (journal progress) after.scope

/-- The journals are those of invoking defs. -/
def Invocation.Records (invoke : Invocation) (journals : Journal.OfDefs) : Prop :=
  ∀ definition arguments, (invoke definition arguments).Records (journals definition arguments)

namespace Rendering.Records

variable {α β : Type}

theorem pure (value : α) : Records (pure value) .silent := by
  intro progress result after ended
  cases ended
  exact .nil _

theorem fail (error : RenderError) : Records (fail error : Rendering α) .silent := by
  intro progress result after ended
  cases ended
  exact .nil _

theorem reads {step : Rendering α} {promise : α → Prop} (reads : Reads promise step) :
    Records step .silent := by
  cases reads with
  | value => exact pure _
  | error => exact fail _

theorem scope : Records scope .silent := by
  intro progress result after ended
  cases ended
  exact .nil _

theorem note (events : List Event) : Records (note events) .silent := by
  intro progress result after ended
  cases ended
  exact .nil _

theorem modifyPage (change : Buffer → Buffer) : Records (modifyPage change) .silent := by
  intro progress result after ended
  cases ended
  exact .nil _

theorem lookup (name : String) : Records (lookup name) (.lookup name) := by
  intro progress result after ended
  -- The journal has what the step gave; in each case that is what the scope says.
  rw [Journal.lookup, ended]
  rw [lookup_apply] at ended
  have replays : progress.scope.Replays
      [.lookup name (progress.scope.hasVar name) (progress.scope.lookup name)] progress.scope :=
    .lookup name (.nil _)
  split at ended <;> next found =>
    rw [found] at replays
    cases ended
    exact replays

theorem addVar (name : String) (value : Json) : Records (addVar name value) (.add name value) := by
  intro progress result after ended
  cases ended
  exact .add name value (.nil _)

theorem bind {first : Rendering α} {next : α → Rendering β} {journal : Journal}
    {journals : α → Journal} (records : Records first journal)
    (nexts : ∀ value, Records (next value) (journals value)) :
    Records (first >>= next) (journal.andThen first journals) := by
  intro progress result after ended
  rcases bind_eq_some ended with ⟨error, begun, rfl⟩ | ⟨value, middle, begun, continued⟩
  · have replays := records _ _ _ begun
    simpa only [Journal.andThen, begun, List.append_nil] using replays
  · have replays := records _ _ _ begun
    have later := nexts value _ _ _ continued
    simpa only [Journal.andThen, begun] using replays.append later

/-- Steps that take no action need not be in a journal. -/
theorem then_silent {first : Rendering α} {next : α → Rendering β} {journal : Journal}
    (records : Records first journal) (nexts : ∀ value, Records (next value) .silent) :
    Records (first >>= next) journal := by
  intro progress result after ended
  have replays := records.bind nexts progress result after ended
  have nothing : (journal.andThen first fun _ => .silent) progress = journal progress := by
    rw [Journal.andThen]
    split <;> exact List.append_nil _
  rwa [nothing] at replays

theorem lookupOrNull (name : String) : Records (lookupOrNull name) (.lookup name) := by
  rw [lookupOrNull_eq]
  exact .then_silent (.lookup name) fun _ => .pure _

theorem collect {step : Rendering Unit} {journal : Journal} (records : Records step journal) :
    Records (collect step) journal.collect := by
  intro progress result after ended
  obtain ⟨outcome, inner, begun, rfl, rfl⟩ := collect_eq_some ended
  exact records _ _ _ begun

/-- Nothing that is done in another scope is an action on the scope of the caller. -/
theorem inScope (other : Scope) (step : Rendering α) : Records (inScope other step) .silent := by
  intro progress result after ended
  obtain ⟨inner, _, rfl⟩ := inScope_eq_some ended
  exact .nil _

theorem forEach {step : α → Nat → Rendering Unit} {journal : α → Nat → Journal}
    (records : ∀ item position, Records (step item position) (journal item position))
    (items : List α) (position : Nat) :
    Records (forEach step items position) (.forEach step journal items position) := by
  induction items generalizing position with
  | nil => exact pure ()
  | cons item items ih => exact bind (records item position) fun _ => ih (position + 1)

end Rendering.Records

namespace Rendering

variable {invoke : Invocation} {journals : Journal.OfDefs}

theorem callDef_records (invocations : invoke.Records journals) (name : String)
    (arguments : List Json) :
    (callDef invoke name arguments).Records (.callDef journals name arguments) := by
  refine .bind .scope fun scope => ?_
  cases scope.def? name with
  | some definition => exact invocations definition arguments
  | none => exact .fail _

theorem runMain_records (invocations : invoke.Records journals) (template : String) :
    (runMain invoke template).Records (.runMain journals template) := by
  refine .bind .scope fun scope => ?_
  cases scope.def? Template.mainName with
  | some main => exact .bind (.note _) fun _ => invocations main []
  | none => exact .fail _

theorem includeTemplate_records (invoke : Invocation) (template : Template) (vars : Table Json) :
    (includeTemplate invoke template vars).Records .silent :=
  .then_silent .scope fun _ => .then_silent (.note _) fun _ => .inScope _ _

theorem importCall_records (invoke : Invocation) (template : Template) (name : String)
    (arguments : List Json) : (importCall invoke template name arguments).Records .silent := by
  refine .then_silent .scope fun scope => .then_silent (.note _) fun _ => ?_
  split
  · exact .inScope _ _
  · exact .fail _

end Rendering

open Rendering

mutual

theorem Expr.eval_records {invoke : Invocation} {journals : Journal.OfDefs}
    (invocations : invoke.Records journals) (frame : Frame) :
    (expr : Expr) → (expr.eval invoke frame).Records (expr.journal invoke journals frame)
  | .literal value => .pure value
  | .parse source _ => .then_silent (.reads (Json.read_reads source)) fun _ => .pure _
  | .buffer body =>
      .then_silent (.collect (Stmt.runAll_records invocations frame body)) fun _ => .pure _
  | .markupOf body =>
      .then_silent (.collect (Stmt.runAll_records invocations frame body)) fun _ => .pure _
  | .escape expr => .then_silent (expr.eval_records invocations frame) fun _ => .pure _
  | .lookup name => .then_silent (.lookup name) fun _ => .pure _
  | .lookupOrNull name => .then_silent (.lookupOrNull name) fun _ => .pure _
  | .orElse first second => by
      refine .bind (first.eval_records invocations frame) fun value => ?_
      cases value with
      | undefined => exact second.eval_records invocations frame
      | _ => exact .pure _
  | .argument index => .then_silent (.reads (frame.argument_reads index)) fun _ => .pure _
  | .item => .then_silent (.reads frame.currentItem_reads) fun _ => .pure _
  | .index => .then_silent (.reads frame.currentItem_reads) fun _ => .pure _
  | .isOdd => .then_silent (.reads frame.currentItem_reads) fun _ => .pure _
  | .add name expr => by
      refine .bind (expr.eval_records invocations frame) fun value => ?_
      exact .then_silent (.addVar name value.toJson) fun _ => .pure _
  | .hasDef _ => .then_silent .scope fun _ => .pure _
  | .call name arguments => by
      refine .bind (Expr.evalAll_records invocations frame arguments) fun values => ?_
      exact .then_silent (callDef_records invocations name _) fun _ => .pure _
  | .includeTemplate index vars => by
      refine .then_silent (Expr.evalPairs_records invocations frame vars) fun values => ?_
      refine .then_silent (.reads (frame.dependency_reads index)) fun template => ?_
      exact .then_silent (includeTemplate_records invoke template _) fun _ => .pure _
  | .importCall index name arguments => by
      refine .then_silent (Expr.evalAll_records invocations frame arguments) fun values => ?_
      refine .then_silent (.reads (frame.dependency_reads index)) fun template => ?_
      exact .then_silent (importCall_records invoke template name _) fun _ => .pure _

theorem Expr.evalAll_records {invoke : Invocation} {journals : Journal.OfDefs}
    (invocations : invoke.Records journals) (frame : Frame) :
    (exprs : List Expr) →
      (Expr.evalAll invoke frame exprs).Records (Expr.journalAll invoke journals frame exprs)
  | [] => .pure _
  | expr :: exprs => by
      refine .bind (expr.eval_records invocations frame) fun value => ?_
      exact .then_silent (Expr.evalAll_records invocations frame exprs) fun _ => .pure _

theorem Expr.evalPairs_records {invoke : Invocation} {journals : Journal.OfDefs}
    (invocations : invoke.Records journals) (frame : Frame) :
    (pairs : List (String × Expr)) →
      (Expr.evalPairs invoke frame pairs).Records (Expr.journalPairs invoke journals frame pairs)
  | [] => .pure _
  | (_, expr) :: pairs => by
      refine .bind (expr.eval_records invocations frame) fun value => ?_
      exact .then_silent (Expr.evalPairs_records invocations frame pairs) fun _ => .pure _

theorem Stmt.run_records {invoke : Invocation} {journals : Journal.OfDefs}
    (invocations : invoke.Records journals) (frame : Frame) :
    (stmt : Stmt) → (stmt.run invoke frame).Records (stmt.journal invoke journals frame)
  | .write exprs =>
      .then_silent (Expr.evalAll_records invocations frame exprs) fun _ => .modifyPage _
  | .writeEscaped exprs =>
      .then_silent (Expr.evalAll_records invocations frame exprs) fun _ => .modifyPage _
  | .writeArguments => by
      rw [Stmt.run, Stmt.journal]
      exact .modifyPage _
  | .attributes pairs =>
      .then_silent (Expr.evalPairs_records invocations frame pairs) fun _ => .modifyPage _
  | .attributesOf expr => by
      refine .then_silent (expr.eval_records invocations frame) fun value => ?_
      exact .then_silent (.reads value.fields_reads) fun _ => .modifyPage _
  | .forEach expr complaint body => by
      refine .bind (expr.eval_records invocations frame) fun value => ?_
      refine .bind (.reads (value.items_reads complaint)) fun items => ?_
      refine .forEach (fun item position => ?_) items 0
      exact Stmt.runAll_records invocations { frame with current := some (item, position) } body
  | .cond expr whenTrue whenFalse => by
      refine .bind (expr.eval_records invocations frame) fun value => ?_
      split
      · exact Stmt.runAll_records invocations frame whenTrue
      · exact Stmt.runAll_records invocations frame whenFalse
  | .discard expr => .then_silent (expr.eval_records invocations frame) fun _ => .pure _
  | .fail _ => .fail _

theorem Stmt.runAll_records {invoke : Invocation} {journals : Journal.OfDefs}
    (invocations : invoke.Records journals) (frame : Frame) :
    (stmts : List Stmt) →
      (Stmt.runAll invoke frame stmts).Records (Stmt.journalAll invoke journals frame stmts)
  | [] => .pure _
  | stmt :: stmts => by
      refine .bind (stmt.run_records invocations frame) fun _ => ?_
      exact Stmt.runAll_records invocations frame stmts

end

/-- The journal of a def accounts for what becomes of the scope, at every depth. -/
theorem Def.invoke_records (depth : Nat) :
    Invocation.Records (Def.invoke depth) (Def.journal depth) := by
  induction depth with
  | zero => exact fun _ _ _ _ _ ended => nomatch ended
  | succ depth ih =>
      intro definition arguments
      exact .collect (Stmt.runAll_records ih _ definition.body)

namespace Bound

/-- A render of a bound template, to whichever form: its actions, and what it leaves behind. -/
inductive Rendered (bound : Bound) : List Action → Bound → Prop where
  | buffer {depth : Nat} {run : Run Buffer Bound} (ended : bound.renderBuffer depth = some run) :
      Rendered bound (bound.actions depth) run.state
  | text {depth : Nat} {run : Run String Bound} (ended : bound.render depth = some run) :
      Rendered bound (bound.actions depth) run.state
  | markup {depth : Nat} {run : Run Markup Bound} (ended : bound.renderMarkup depth = some run) :
      Rendered bound (bound.actions depth) run.state
  | insertion {depth : Nat} {placement : Placement} {target : String} {run : Run Unit Bound}
      (attached : bound.hasHost = true)
      (ended : bound.insert depth placement target = some run) :
      Rendered bound (bound.actions depth) run.state

/-- Renders of a bound template one after the other, successful or not. -/
inductive Session : Bound → List Action → Bound → Prop where
  | nil (bound : Bound) : Session bound [] bound
  | cons {bound next final : Bound} {actions later : List Action}
      (render : bound.Rendered actions next) (rest : Session next later final) :
      Session bound (actions ++ later) final

theorem renderBuffer_replays {bound : Bound} {depth : Nat} {run : Run Buffer Bound}
    (ended : bound.renderBuffer depth = some run) :
    bound.scope.Replays (bound.actions depth) run.state.scope := by
  simp only [renderBuffer, Rendering.run, Option.map_map, Option.map_eq_some_iff] at ended
  obtain ⟨⟨result, after⟩, ran, rfl⟩ := ended
  exact runMain_records (Def.invoke_records depth) bound.id _ _ _ ran

theorem render_replays {bound : Bound} {depth : Nat} {run : Run String Bound}
    (ended : bound.render depth = some run) :
    bound.scope.Replays (bound.actions depth) run.state.scope := by
  obtain ⟨written, begun, rfl⟩ := Option.map_eq_some_iff.mp ended
  exact renderBuffer_replays begun

/-- An insertion renders the template; the answer of the host does not touch the scope. -/
theorem insert_replays {bound : Bound} {depth : Nat} {placement : Placement} {target : String}
    {run : Run Unit Bound} (attached : bound.hasHost = true)
    (ended : bound.insert depth placement target = some run) :
    bound.scope.Replays (bound.actions depth) run.state.scope := by
  obtain ⟨host, attached⟩ := Option.isSome_iff_exists.mp attached
  simp only [insert, attached] at ended
  obtain ⟨rendered, begun, rfl⟩ := Option.map_eq_some_iff.mp ended
  have replays := render_replays begun
  split <;> exact replays

theorem Rendered.replays {bound next : Bound} {actions : List Action}
    (render : bound.Rendered actions next) : bound.scope.Replays actions next.scope := by
  cases render with
  | buffer ended => exact renderBuffer_replays ended
  | text ended => exact render_replays ended
  | markup ended =>
      obtain ⟨written, begun, rfl⟩ := Option.map_eq_some_iff.mp ended
      exact renderBuffer_replays begun
  | insertion attached ended => exact insert_replays attached ended

theorem Session.replays {bound final : Bound} {actions : List Action}
    (session : bound.Session actions final) : bound.scope.Replays actions final.scope := by
  induction session with
  | nil => exact .nil _
  | cons render _ ih => exact render.replays.append ih

/--
A scope only grows. However often a bound template is rendered, the defs, the globals and the
policy stay, a variable keeps its value, and a new variable has the value of its first addition,
which is the only one that is stored. A name that a lookup has once found in the context is found
there, with the same value, by every lookup after it.
-/
theorem session_grows_scope (bound final : Bound) (actions : List Action)
    (session : bound.Session actions final) :
    final.scope.defs = bound.scope.defs ∧ final.scope.globals = bound.scope.globals ∧
      final.scope.policy = bound.scope.policy ∧
      (∀ name value, bound.scope.vars.get? name = some value →
        final.scope.vars.get? name = some value) ∧
      (∀ name, bound.scope.vars.get? name = none →
        final.scope.vars.get? name = Action.firstAdded name actions) ∧
      (∀ earlier name value stored later,
        actions = earlier ++ .add name value stored :: later →
        (stored = true ↔ bound.scope.hasVar name = false ∧
          ∀ value stored, .add name value stored ∉ earlier)) ∧
      (∀ earlier name value later,
        actions = earlier ++ .lookup name true (.ok (some value)) :: later →
        (∀ inContext outcome, .lookup name inContext outcome ∈ later →
          inContext = true ∧ outcome = .ok (some value)) ∧
        final.scope.vars.get? name = some value ∧
        final.scope.lookup name = .ok (some value)) := by
  have replays := session.replays
  have frame := replays.eq_withVars
  refine ⟨by rw [frame], by rw [frame], by rw [frame], ?_, ?_, ?_, ?_⟩
  · intro name value known
    rw [replays.get?_vars, known, Option.some_or]
  · intro name absent
    rw [replays.get?_vars, absent, Option.none_or]
  · rintro earlier name value stored later rfl
    exact replays.stored_iff
  · rintro earlier name value later rfl
    obtain ⟨middle, rest, known⟩ := replays.get?_of_found
    have kept : final.scope.vars.get? name = some value := by
      rw [rest.get?_vars, known, Option.some_or]
    refine ⟨fun inContext outcome member => rest.outcome_of_mem known member, kept, ?_⟩
    exact Scope.lookup_of_get? kept

/-- A template that keeps a note of its first visitor. -/
def guestbook : Bound :=
  (Template.root "guestbook" (.mk [
    .discard (.add "first" (.lookupOrNull "visitor")),
    .writeEscaped [.lookup "first"]] []) []).bind { vars := .ofList [("visitor", .string "Ada")] }

/-- Two renders of the guestbook; only the first has something to add. -/
theorem guestbook_grows_twice :
    ∃ actions final, guestbook.Session actions final ∧
      Action.firstAdded "first" actions = some (.string "Ada") ∧
      final.scope.vars.get? "first" = some (.string "Ada") := by
  have ends : ((guestbook.render 1).bind fun run => run.state.render 1).isSome = true := by
    decide +kernel
  obtain ⟨second, ended⟩ := Option.isSome_iff_exists.mp ends
  obtain ⟨first, begun, continued⟩ := Option.bind_eq_some_iff.mp ended
  have session : guestbook.Session (guestbook.actions 1 ++ (first.state.actions 1 ++ []))
      second.state :=
    .cons (.text begun) (.cons (.text continued) (.nil _))
  have added : Action.firstAdded "first" (guestbook.actions 1 ++ (first.state.actions 1 ++ [])) =
      some (.string "Ada") := by
    rw [Action.firstAdded, List.findSome?_append]
    rfl
  obtain ⟨_, _, _, _, new, _⟩ := session_grows_scope _ _ _ session
  exact ⟨_, _, session, added, (new "first" rfl).trans added⟩

end Bound

end Stencil
