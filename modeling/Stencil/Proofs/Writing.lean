import Mathlib.Data.List.Forall2
import Stencil.Proofs.Flattening
import Stencil.Proofs.Lineage
import Stencil.Proofs.Steps
import Stencil.Template.Depth

/-!
# What a run writes, exactly

For bodies that add nothing to their scope the whole outcome of a run can be told in advance: the
text that is written, or the error. `Rendering.Writes` says so of a step that writes, and
`Rendering.Gives` of a step that gives a value, of which only a view matters: the text it would be
written as. Both promise that the step ends.

There is one rule for each way of joining steps, so the outcome of a body is put together from the
outcomes of its statements in the order of writing, and the first error decides.
-/

namespace Stencil

/-- Two computations in a row succeed only if the first one does. -/
theorem exists_of_bind_eq_ok {ε α β : Type} {first : Except ε α} {next : α → Except ε β}
    {value : β} (ended : first >>= next = .ok value) :
    ∃ middle, first = .ok middle ∧ next middle = .ok value := by
  cases first with
  | error _ => cases ended
  | ok middle => exact ⟨middle, rfl, ended⟩

theorem exists_of_map_eq_ok {ε α β : Type} {first : Except ε α} {change : α → β} {value : β}
    (ended : first.map change = .ok value) :
    ∃ middle, first = .ok middle ∧ change middle = value := by
  cases first with
  | error _ => cases ended
  | ok middle => exact ⟨middle, rfl, Except.ok.inj ended⟩

namespace Rendering

variable {α β γ δ : Type} {scope : Scope}

/-- In a scope a step ends and changes nothing; a view of its result is known, or its error. -/
def Gives (scope : Scope) (step : Rendering α) (view : α → β)
    (outcome : Except RenderError β) : Prop :=
  ∀ page events, ∃ result later,
    step { scope, page, events } = some (result, { scope, page, events := later }) ∧
      result.map view = outcome

/-- In a scope a step ends and leaves the scope alone; the text it writes is known, or its error. -/
def Writes (scope : Scope) (step : Rendering Unit) (outcome : Except RenderError String) : Prop :=
  ∀ page events, ∃ result left later,
    step { scope, page, events } = some (result, { scope, page := left, events := later }) ∧
      result.map (fun _ => left.flatten) = outcome.map (page.flatten ++ ·)

/-- The outcome of writing one text and then another. -/
def joined (first second : Except RenderError String) : Except RenderError String := do
  return (← first) ++ (← second)

/-- The outcome of writing several texts in order. -/
def inOrder (outcomes : List (Except RenderError String)) : Except RenderError String :=
  (outcomes.mapM id).map String.join

theorem inOrder_cons (first : Except RenderError String)
    (rest : List (Except RenderError String)) :
    inOrder (first :: rest) = joined first (inOrder rest) := by
  simp only [inOrder, List.mapM_cons, id]
  cases first with
  | error error => rfl
  | ok text =>
      cases rest.mapM id with
      | error error => rfl
      | ok texts => exact congrArg Except.ok (String.join_cons ..)

@[simp]
theorem inOrder_singleton (outcome : Except RenderError String) : inOrder [outcome] = outcome := by
  cases outcome with
  | error error => rfl
  | ok text => exact congrArg Except.ok (by simp)

namespace Gives

theorem pure (value : α) (view : α → β) : Gives scope (pure value) view (.ok (view value)) :=
  fun _ events => ⟨.ok value, events, rfl, rfl⟩

theorem congr {step : Rendering α} {view : α → β} {outcome other : Except RenderError β}
    (gives : Gives scope step view outcome) (same : outcome = other) :
    Gives scope step view other :=
  same ▸ gives

theorem bind {first : Rendering α} {next : α → Rendering γ} {view : α → β} {other : γ → δ}
    {outcome : Except RenderError β} {later : β → Except RenderError δ}
    (gives : Gives scope first view outcome)
    (nexts : ∀ value, Gives scope (next value) other (later (view value))) :
    Gives scope (first >>= next) other (outcome >>= later) := by
  intro page events
  obtain ⟨result, middle, begun, rfl⟩ := gives page events
  rw [bind_apply, begun]
  cases result with
  | error error => exact ⟨.error error, middle, rfl, rfl⟩
  | ok value => exact nexts value page middle

/-- A step followed by a function of its result. -/
theorem map {first : Rendering α} {view : γ → δ} (change : α → γ)
    {outcome : Except RenderError δ}
    (gives : Gives scope first (fun value => view (change value)) outcome) :
    Gives scope (first >>= fun value => Pure.pure (change value)) view outcome := by
  intro page events
  obtain ⟨result, middle, begun, rfl⟩ := gives page events
  rw [bind_apply, begun]
  cases result with
  | error error => exact ⟨.error error, middle, rfl, rfl⟩
  | ok value => exact ⟨.ok (change value), middle, rfl, rfl⟩

/-- What can be told from a view can be told from the result. -/
theorem view {step : Rendering α} {whole : α → β} {outcome : Except RenderError β}
    (gives : Gives scope step whole outcome) (part : β → γ) :
    Gives scope step (fun value => part (whole value)) (outcome.map part) := by
  intro page events
  obtain ⟨result, later, ended, rfl⟩ := gives page events
  refine ⟨result, later, ended, ?_⟩
  cases result <;> rfl

theorem lookup (name : String) (view : Option Json → β) :
    Gives scope (lookup name) view ((scope.lookup name).map view) := by
  intro page events
  rw [lookup_apply]
  match scope.lookup name with
  | .error error => exact ⟨.error error, events, rfl, rfl⟩
  | .ok (some value) => exact ⟨.ok (some value), events, rfl, rfl⟩
  | .ok none => exact ⟨.ok none, _, rfl, rfl⟩

theorem lookupOrNull (name : String) (view : Json → β) :
    Gives scope (lookupOrNull name) view
      ((scope.lookup name).map fun found => view (found.getD .null)) := by
  rw [lookupOrNull_eq]
  exact .map _ (.lookup name _)

/-- What is written to a page of its own is handed over as a buffer with that text. -/
theorem collect {step : Rendering Unit} {outcome : Except RenderError String}
    (writes : Writes scope step outcome) :
    Gives scope (collect step) Buffer.flatten outcome := by
  intro page events
  obtain ⟨result, left, later, ended, same⟩ := writes {} events
  refine ⟨result.map fun _ => left, later, ?_, ?_⟩
  · simp only [Rendering.collect, ended]
  · cases result <;> cases outcome <;> simp_all [Except.map]

/-- A step in another scope leaves the scope it is taken from alone. -/
theorem inScope {other : Scope} {step : Rendering α} {view : α → β}
    {outcome : Except RenderError β} (gives : Gives other step view outcome) :
    Gives scope (inScope other step) view outcome := by
  intro page events
  obtain ⟨result, later, ended, same⟩ := gives page events
  exact ⟨result, later, by simp only [Rendering.inScope, ended], same⟩

end Gives

namespace Writes

theorem pure : Writes scope (Pure.pure ()) (.ok "") :=
  fun page events => ⟨.ok (), page, events, rfl, by simp [Except.map]⟩

theorem fail (error : RenderError) : Writes scope (Rendering.fail error) (.error error) :=
  fun page events => ⟨.error error, page, events, rfl, rfl⟩

theorem congr {step : Rendering Unit} {outcome other : Except RenderError String}
    (writes : Writes scope step outcome) (same : outcome = other) : Writes scope step other :=
  same ▸ writes

theorem modifyPage {change : Buffer → Buffer} {text : String}
    (appends : ∀ page, (change page).flatten = page.flatten ++ text) :
    Writes scope (modifyPage change) (.ok text) :=
  fun page events => ⟨.ok (), change page, events, rfl, by simp [Except.map, appends]⟩

/-- A value is found first, then something is written that depends on a view of it. -/
theorem after {first : Rendering α} {next : α → Rendering Unit} {view : α → β}
    {outcome : Except RenderError β} {text : β → Except RenderError String}
    (gives : Gives scope first view outcome)
    (nexts : ∀ value, Writes scope (next value) (text (view value))) :
    Writes scope (first >>= next) (outcome >>= text) := by
  intro page events
  obtain ⟨result, middle, begun, rfl⟩ := gives page events
  rw [bind_apply, begun]
  cases result with
  | error error => exact ⟨.error error, page, middle, rfl, rfl⟩
  | ok value => exact nexts value page middle

theorem seq {first second : Rendering Unit} {left right : Except RenderError String}
    (begins : Writes scope first left) (continues : Writes scope second right) :
    Writes scope (first >>= fun _ => second) (joined left right) := by
  intro page events
  obtain ⟨result, middle, noted, begun, same⟩ := begins page events
  rw [bind_apply, begun]
  cases result with
  | error error =>
      refine ⟨.error error, middle, noted, rfl, ?_⟩
      cases left with
      | error other => exact same
      | ok text => cases same
  | ok value =>
      obtain ⟨outcome, last, later, ended, final⟩ := continues middle noted
      refine ⟨outcome, last, later, ended, ?_⟩
      cases left with
      | error other => cases same
      | ok text =>
          have written : middle.flatten = page.flatten ++ text := Except.ok.inj same
          rw [final, written]
          cases right with
          | error other => rfl
          | ok more => exact congrArg Except.ok (String.append_assoc ..)

/-- A loop writes what its body writes for each element, in order. -/
theorem forEach {step : α → Nat → Rendering Unit} {text : α → Nat → String}
    (each : ∀ item position, Writes scope (step item position) (.ok (text item position)))
    (items : List α) (position : Nat) :
    Writes scope (forEach step items position)
      (.ok (String.join ((items.zipIdx position).map fun entry => text entry.1 entry.2))) := by
  induction items generalizing position with
  | nil => exact pure
  | cons item items ih =>
      rw [List.zipIdx_cons, List.map_cons, String.join_cons]
      exact (each item position).seq (ih (position + 1))

end Writes

variable {invoke : Invocation} {outcome : Except RenderError String}

/-- Calling a bound def gives what invoking it gives. -/
theorem callDef_gives {name : String} {definition : Def} (found : scope.def? name = some definition)
    {arguments : List Json}
    (gives : Gives scope (invoke definition arguments) Buffer.flatten outcome) :
    Gives scope (callDef invoke name arguments) Buffer.flatten outcome := by
  intro page events
  obtain ⟨result, later, ended, same⟩ := gives page events
  refine ⟨result, later, ?_, same⟩
  simp only [callDef, bind_apply, scope_apply, found]
  exact ended

theorem runMain_gives {main : Def} (found : scope.def? Template.mainName = some main)
    (gives : Gives scope (invoke main []) Buffer.flatten outcome) (template : String) :
    Gives scope (runMain invoke template) Buffer.flatten outcome := by
  intro page events
  obtain ⟨result, later, ended, same⟩ := gives page (events ++ [Event.rendering template])
  refine ⟨result, later, ?_, same⟩
  simp only [runMain, bind_apply, scope_apply, found]
  exact ended

theorem includeTemplate_gives {template : Template} {vars : Table Json}
    (gives : Gives (template.bindInto { vars, globals := scope.globals, policy := scope.policy })
      (runMain invoke template.id) Buffer.flatten outcome) :
    Gives scope (includeTemplate invoke template vars) Buffer.flatten outcome := by
  have apart : Gives scope (inScope (template.bindInto
      { vars, globals := scope.globals, policy := scope.policy }) (runMain invoke template.id))
      Buffer.flatten outcome := .inScope gives
  intro page events
  obtain ⟨result, later, ended, same⟩ := apart page (events ++
    template.bindingEvents { vars, globals := scope.globals, policy := scope.policy })
  exact ⟨result, later, ended, same⟩

end Rendering

open Rendering

variable {scope : Scope} {invoke : Invocation} {frame : Frame}

/-- What a def writes is what its body writes, with one level of nesting less. -/
theorem Def.invoke_gives {definition : Def} {arguments : List Json} {depth : Nat}
    {outcome : Except RenderError String}
    (writes : Writes scope (Stmt.runAll (Def.invoke depth)
      { arguments, dependencies := definition.dependencies } definition.body) outcome) :
    Gives scope (Def.invoke (depth + 1) definition arguments) Buffer.flatten outcome :=
  .collect writes

namespace Expr

theorem eval_lookup_gives {β : Type} (name : String) (view : Value → β) :
    Gives scope ((Expr.lookup name).eval invoke frame) view
      ((scope.lookup name).map fun found => view (.ofOption found)) :=
  .map _ (.lookup name _)

theorem eval_lookupOrNull_gives {β : Type} (name : String) (view : Value → β) :
    Gives scope ((Expr.lookupOrNull name).eval invoke frame) view
      ((scope.lookup name).map fun found => view (.json (found.getD .null))) :=
  .map _ (.lookupOrNull name _)

/-- A name, or a value of the body in its place. -/
theorem eval_lookupOr_gives {β : Type} (name : String) (fallback : Value) (view : Value → β) :
    Gives scope ((Expr.orElse (.lookup name) (.literal fallback)).eval invoke frame) view
      ((scope.lookup name).map fun found => view (found.elim fallback .json)) := by
  intro page events
  have looks : Gives scope ((Expr.lookup name).eval invoke frame) id
      ((scope.lookup name).map Value.ofOption) := eval_lookup_gives name id
  obtain ⟨result, later, looked, same⟩ := looks page events
  have settled : result = (scope.lookup name).map Value.ofOption := by
    cases result <;> exact same
  rw [Expr.eval, bind_apply, looked, settled]
  cases scope.lookup name with
  | error error => exact ⟨.error error, later, rfl, rfl⟩
  | ok found =>
      cases found with
      | none => exact ⟨.ok fallback, later, rfl, rfl⟩
      | some data => exact ⟨.ok (.json data), later, rfl, rfl⟩

theorem evalAll_singleton_gives {β : Type} {expr : Expr} {view : Value → β}
    {outcome : Except RenderError β}
    (gives : Gives scope (expr.eval invoke frame) view outcome) :
    Gives scope (Expr.evalAll invoke frame [expr]) (List.map view)
      (outcome.map fun shown => [shown]) := by
  have evaluated : Gives scope (Expr.evalAll invoke frame [expr]) (List.map view)
      (outcome >>= fun shown => .ok [shown]) :=
    .bind gives fun value => .map (value :: ·) (.pure [] _)
  refine evaluated.congr ?_
  cases outcome <;> rfl

/-- Named values are evaluated in order. -/
theorem evalPairs_cons_gives {β : Type} {name : String} {expr : Expr}
    {pairs : List (String × Expr)} {view : Value → β} {outcome : Except RenderError β}
    {others : Except RenderError (List (String × β))}
    (gives : Gives scope (expr.eval invoke frame) view outcome)
    (rest : Gives scope (Expr.evalPairs invoke frame pairs)
      (List.map fun pair => (pair.1, view pair.2)) others) :
    Gives scope (Expr.evalPairs invoke frame ((name, expr) :: pairs))
      (List.map fun pair => (pair.1, view pair.2))
      (outcome >>= fun shown => others.map ((name, shown) :: ·)) := by
  rw [Expr.evalPairs]
  exact .bind gives fun value => .map ((name, value) :: ·) (rest.view ((name, view value) :: ·))

/-- Names that are looked up one after the other, as values of the same names. -/
theorem evalPairs_lookups_gives {β : Type} (view : Value → β) (names : List String) :
    Gives scope (Expr.evalPairs invoke frame (names.map fun name => (name, .lookup name)))
      (List.map fun pair => (pair.1, view pair.2))
      (names.mapM fun name =>
        (scope.lookup name).map fun found => (name, view (.ofOption found))) := by
  induction names with
  | nil => exact .pure _ _
  | cons name names ih =>
      refine (evalPairs_cons_gives (eval_lookup_gives name view) ih).congr ?_
      rw [List.mapM_cons]
      cases scope.lookup name <;> rfl

/-- An included template sees the values of its variables, and nothing else of the context. -/
theorem eval_includeTemplate_gives {index : Nat} {vars : List (String × Expr)} {template : Template}
    {entries : Except RenderError (List (String × Json))}
    {text : Table Json → Except RenderError String}
    (used : frame.dependencies[index]? = some template)
    (gives : Gives scope (Expr.evalPairs invoke frame vars)
      (List.map fun pair => (pair.1, pair.2.toJson)) entries)
    (includes : ∀ own, Gives scope (Rendering.includeTemplate invoke template own) Buffer.flatten
      (text own)) :
    Gives scope ((Expr.includeTemplate index vars).eval invoke frame) (·.toContent.plain)
      (entries >>= fun entries => text (Table.ofList entries)) := by
  rw [Expr.eval]
  refine .bind gives fun values => ?_
  have dependency : frame.dependency index = Pure.pure template := by
    rw [Frame.dependency, used]
  rw [dependency]
  exact .map Value.buffer (includes _)

end Expr

namespace Rendering.Writes

/-- A value is written, in whichever form. -/
theorem one {expr : Expr} {outcome : Except RenderError String} {view : Value → String}
    {change : List Value → Buffer → Buffer}
    (appends : ∀ values page,
      (change values page).flatten = page.flatten ++ String.join (values.map view))
    (gives : Gives scope (expr.eval invoke frame) view outcome) :
    Writes scope (Expr.evalAll invoke frame [expr] >>= fun values =>
      Rendering.modifyPage (change values)) outcome := by
  have written : Writes scope (Expr.evalAll invoke frame [expr] >>= fun values =>
      Rendering.modifyPage (change values))
      (outcome.map (fun text => [text]) >>= fun texts => .ok (String.join texts)) :=
    .after (Expr.evalAll_singleton_gives gives) fun values => .modifyPage (appends values)
  refine written.congr ?_
  cases outcome with
  | error _ => rfl
  | ok text => exact congrArg Except.ok (by simp)

/-- A value is written as it is. -/
theorem write {expr : Expr} {outcome : Except RenderError String}
    (gives : Gives scope (expr.eval invoke frame) (·.toContent.plain) outcome) :
    Writes scope ((Stmt.write [expr]).run invoke frame) outcome := by
  refine .one (fun values page => ?_) gives
  rw [Buffer.flatten_writeAll, List.map_map]
  rfl

/-- A value is written escaped, unless it is safe. -/
theorem writeEscaped {expr : Expr} {outcome : Except RenderError String}
    (gives : Gives scope (expr.eval invoke frame) (·.toContent.escape.text) outcome) :
    Writes scope ((Stmt.writeEscaped [expr]).run invoke frame) outcome := by
  refine .one (fun values page => ?_) gives
  rw [Buffer.flatten_writeAllEscaped, List.map_map]
  rfl

theorem text (plain : String) :
    Writes scope ((Stmt.text plain).run invoke frame) (.ok plain) :=
  write (.pure _ _)

theorem attributes {pairs : List (String × Expr)}
    {outcome : Except RenderError (List (String × AttributeValue))}
    (gives : Gives scope (Expr.evalPairs invoke frame pairs)
      (List.map fun pair => (pair.1, pair.2.toAttribute)) outcome) :
    Writes scope ((Stmt.attributes pairs).run invoke frame)
      (outcome.map fun attributes =>
        String.join (attributes.map fun pair => pair.2.shown pair.1)) := by
  have written : Writes scope ((Stmt.attributes pairs).run invoke frame)
      (outcome >>= fun attributes =>
        .ok (String.join (attributes.map fun pair => pair.2.shown pair.1))) := by
    refine .after gives fun values => .modifyPage fun page => ?_
    rw [Buffer.flatten_splice, Buffer.flatten_ofAttributes]
  refine written.congr ?_
  cases outcome <;> rfl

/-- A loop over an array; anything else is complained about. -/
theorem loop {expr : Expr} {complaint : Complaint} {body : List Stmt}
    {outcome : Except RenderError Json} {text : Json → Nat → String}
    (gives : Gives scope (expr.eval invoke frame) Value.toJson outcome)
    (each : ∀ item position, Writes scope
      (Stmt.runAll invoke { frame with current := some (item, position) } body)
      (.ok (text item position))) :
    Writes scope ((Stmt.forEach expr complaint body).run invoke frame)
      (outcome >>= fun
        | .array items => .ok (String.join (items.zipIdx.map fun entry => text entry.1 entry.2))
        | data => .error (.notAnArray complaint data)) := by
  rw [Stmt.run]
  refine .after gives fun value => ?_
  rw [Value.items]
  cases value.toJson with
  | array items => exact .forEach each items 0
  | _ => exact .fail _

/-- One of two bodies is run. -/
theorem cond {expr : Expr} {whenTrue whenFalse : List Stmt} {holds : Bool}
    {left right : Except RenderError String}
    (gives : Gives scope (expr.eval invoke frame) Value.isTruthy (.ok holds))
    (writes_true : Writes scope (Stmt.runAll invoke frame whenTrue) left)
    (writes_false : Writes scope (Stmt.runAll invoke frame whenFalse) right) :
    Writes scope ((Stmt.cond expr whenTrue whenFalse).run invoke frame)
      (if holds then left else right) := by
  have chosen : Writes scope ((Stmt.cond expr whenTrue whenFalse).run invoke frame)
      (.ok holds >>= fun holds => if holds then left else right) := by
    rw [Stmt.run]
    refine .after gives fun value => ?_
    split
    · exact writes_true
    · exact writes_false
  exact chosen

/-- A body writes what its statements write, in order. -/
theorem body {stmts : List Stmt} {outcomes : List (Except RenderError String)}
    (each : List.Forall₂ (fun stmt outcome => Writes scope (stmt.run invoke frame) outcome)
      stmts outcomes) :
    Writes scope (Stmt.runAll invoke frame stmts) (inOrder outcomes) := by
  induction each with
  | nil =>
      rw [Stmt.runAll]
      exact .pure
  | cons first _ ih =>
      rw [Stmt.runAll, inOrder_cons]
      exact first.seq ih

end Rendering.Writes

namespace Bound

/-- A render ends within a depth, with this outcome. -/
def EndsWithin (bound : Bound) (depth : Nat) (outcome : Except RenderError String) : Prop :=
  ∃ run, bound.render depth = some run ∧ run.outcome = outcome

/-- A render ends with this outcome, if calls may be nested deeply enough. -/
def EndsWith (bound : Bound) (outcome : Except RenderError String) : Prop :=
  ∃ depth, bound.EndsWithin depth outcome

variable {bound : Bound}

/-- A render that ends within a depth ends in the same way within every greater depth. -/
theorem render_of_le {depth greater : Nat} (le : depth ≤ greater) {run : Run String Bound}
    (ended : bound.render depth = some run) : bound.render greater = some run := by
  rw [render_eq] at ended ⊢
  rcases runMain_refines (Def.invoke_refines le) bound.id { scope := bound.scope } with
    unended | same
  · rw [unended] at ended
    cases ended
  · rwa [same] at ended

theorem EndsWith.unique {outcome other : Except RenderError String}
    (ends : bound.EndsWith outcome) (also : bound.EndsWith other) : outcome = other := by
  obtain ⟨depth, run, ended, rfl⟩ := ends
  obtain ⟨depth', run', ended', rfl⟩ := also
  have first := render_of_le (Nat.le_max_left depth depth') ended
  have second := render_of_le (Nat.le_max_right depth depth') ended'
  rw [Option.some.inj (first.symm.trans second)]

/-- The outcome of a render is that of the entry point. -/
theorem endsWithin_of_gives {depth : Nat} {outcome : Except RenderError String}
    (gives : Gives bound.scope (runMain (Def.invoke depth) bound.id) Buffer.flatten outcome) :
    bound.EndsWithin depth outcome := by
  obtain ⟨result, later, ended, same⟩ := gives {} #[]
  rw [EndsWithin, render_eq, ended]
  exact ⟨_, rfl, same⟩

end Bound

end Stencil
