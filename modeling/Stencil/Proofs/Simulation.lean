import Stencil.Proofs.Parts
import Stencil.Proofs.Steps

/-!
# Two runs side by side

A `Coupling` says which scopes and pages correspond to each other in two runs. The second run may
be stricter than the first: there are errors with which it may stop at any time. Otherwise the two
end alike, with corresponding results in corresponding places (`Coupling.Relates`).

If both runs are of the same body, it suffices to look at the parts of the body that depend on the
scope: lookups, additions, calls, includes and imports. `Coupling.Admits` says what has to be shown
of each, and `Stmt.runAll_simulates` carries it through all other forms.

Mostly the defs of both runs are of one family. Then only lookups, additions and includes are left
to be looked at (`Coupling.Supports`), and `Def.invoke_simulates` carries a correspondence of scopes
through calls and through the fresh and copied scopes of other templates.
-/

namespace Stencil

/-- What corresponds in two runs, and how they may fail. -/
structure Coupling where
  /-- Corresponding scopes. -/
  scopes : Scope → Scope → Prop
  /-- Corresponding pages. -/
  pages : Buffer → Buffer → Prop := Eq
  /-- The errors with which the second run may stop while the first goes on. -/
  stops : RenderError → Prop := fun _ => False
  /-- The names that both runs may fail to find. -/
  misses : String → Prop := fun _ => True

namespace Coupling

variable {α β γ δ : Type} {coupling : Coupling}

/-- Two runs stand at corresponding places. -/
def At (coupling : Coupling) (left right : Progress) : Prop :=
  coupling.scopes left.scope right.scope ∧ coupling.pages left.page right.page

/-- Two steps have ended alike. -/
def Agree (coupling : Coupling) (values : α → β → Prop) :
    Except RenderError α → Except RenderError β → Prop
  | .ok value, .ok other => values value other
  | .error error, .error other =>
      error = other ∧ ∀ name, error = .nameNotFound name → coupling.misses name
  | _, _ => False

/-- The second step has stopped early, or the two have ended alike. -/
def Ended (coupling : Coupling) (values : α → β → Prop) (result : Except RenderError α)
    (left : Progress) (ended : Option (Except RenderError β × Progress)) : Prop :=
  (∃ error right, ended = some (.error error, right) ∧ coupling.stops error) ∨
    ∃ other right, ended = some (other, right) ∧ coupling.Agree values result other ∧
      coupling.At left right

/-- From corresponding places, the second step ends whenever the first does. -/
def Relates (coupling : Coupling) (values : α → β → Prop) (first : Rendering α)
    (second : Rendering β) : Prop :=
  ∀ left right result after, coupling.At left right → first left = some (result, after) →
    coupling.Ended values result after (second right)

namespace Relates

variable {values : α → β → Prop} {others : γ → δ → Prop}

theorem pure {value : α} {other : β} (same : values value other) :
    coupling.Relates values (pure value) (pure other) := by
  intro left right result after at_start ended
  cases ended
  exact .inr ⟨.ok other, right, rfl, same, at_start⟩

theorem fail {error : RenderError}
    (allowed : ∀ name, error = .nameNotFound name → coupling.misses name) :
    coupling.Relates values (Rendering.fail error) (Rendering.fail error) := by
  intro left right result after at_start ended
  cases ended
  exact .inr ⟨.error error, right, rfl, ⟨rfl, allowed⟩, at_start⟩

theorem note (events others : List Event) :
    coupling.Relates Eq (Rendering.note events) (Rendering.note others) := by
  intro left right result after at_start ended
  cases ended
  exact .inr ⟨.ok (), _, rfl, rfl, at_start⟩

theorem scope : coupling.Relates coupling.scopes Rendering.scope Rendering.scope := by
  intro left right result after at_start ended
  cases ended
  exact .inr ⟨.ok right.scope, right, rfl, at_start.1, at_start⟩

theorem modifyPage {change other : Buffer → Buffer}
    (kept : ∀ left right, coupling.pages left right → coupling.pages (change left) (other right)) :
    coupling.Relates Eq (Rendering.modifyPage change) (Rendering.modifyPage other) := by
  intro left right result after at_start ended
  cases ended
  exact .inr ⟨.ok (), _, rfl, rfl, at_start.1, kept _ _ at_start.2⟩

theorem bind {first : Rendering α} {second : Rendering β} {next : α → Rendering γ}
    {other : β → Rendering δ} (steps : coupling.Relates values first second)
    (nexts : ∀ value value', values value value' →
      coupling.Relates others (next value) (other value')) :
    coupling.Relates others (first >>= next) (second >>= other) := by
  intro left right result after at_start ended
  rw [Rendering.bind_apply]
  -- If the second run stops during its first step, it does not come to the next.
  rcases Rendering.bind_eq_some ended with ⟨error, begun, rfl⟩ | ⟨value, middle, begun, continued⟩
  · rcases steps left right _ after at_start begun with
      ⟨early, stopped, run, allowed⟩ | ⟨outcome, stopped, run, agree, at_end⟩
    · rw [run]
      exact .inl ⟨early, stopped, rfl, allowed⟩
    · rw [run]
      cases outcome with
      | ok => exact agree.elim
      | error => exact .inr ⟨_, stopped, rfl, agree, at_end⟩
  · rcases steps left right _ middle at_start begun with
      ⟨early, stopped, run, allowed⟩ | ⟨outcome, stopped, run, agree, at_middle⟩
    · rw [run]
      exact .inl ⟨early, stopped, rfl, allowed⟩
    · rw [run]
      cases outcome with
      | error => exact agree.elim
      | ok value' => exact nexts value value' agree middle stopped _ after at_middle continued

theorem collect {first second : Rendering Unit} (blank : coupling.pages {} {})
    (steps : coupling.Relates Eq first second) :
    coupling.Relates coupling.pages (Rendering.collect first) (Rendering.collect second) := by
  intro left right result after at_start ended
  obtain ⟨outcome, inner, begun, rfl, rfl⟩ := Rendering.collect_eq_some ended
  have at_blank : coupling.At { left with page := {} } { right with page := {} } :=
    ⟨at_start.1, blank⟩
  rcases steps _ _ _ inner at_blank begun with
    ⟨early, stopped, run, allowed⟩ | ⟨other, stopped, run, agree, at_end⟩
  · refine .inl ⟨early, { stopped with page := right.page }, ?_, allowed⟩
    simp only [Rendering.collect, run, Except.map]
  · refine .inr ⟨other.map fun _ => stopped.page, { stopped with page := right.page }, ?_, ?_,
      at_end.1, at_start.2⟩
    · simp only [Rendering.collect, run]
    · cases outcome with
      | ok =>
          cases other with
          | ok => exact at_end.2
          | error => exact agree.elim
      | error =>
          cases other with
          | ok => exact agree.elim
          | error => exact agree

/-- What corresponds inside of another scope may be told anew. -/
theorem inScope {inside : Scope → Scope → Prop} {scope other : Scope} {first : Rendering α}
    {second : Rendering β} (related : inside scope other)
    (steps : Relates { coupling with scopes := inside } values first second) :
    coupling.Relates values (Rendering.inScope scope first) (Rendering.inScope other second) := by
  intro left right result after at_start ended
  obtain ⟨inner, begun, rfl⟩ := Rendering.inScope_eq_some ended
  have at_other : At { coupling with scopes := inside } { left with scope := scope }
      { right with scope := other } := ⟨related, at_start.2⟩
  rcases steps _ _ _ inner at_other begun with
    ⟨early, stopped, run, allowed⟩ | ⟨outcome, stopped, run, agree, at_end⟩
  · refine .inl ⟨early, { stopped with scope := right.scope }, ?_, allowed⟩
    simp only [Rendering.inScope, run]
  · refine .inr ⟨outcome, { stopped with scope := right.scope }, ?_, agree, at_start.1, at_end.2⟩
    simp only [Rendering.inScope, run]

theorem forEach {first second : α → Nat → Rendering Unit}
    (steps : ∀ item position,
      coupling.Relates Eq (first item position) (second item position))
    (items : List α) (position : Nat) :
    coupling.Relates Eq (Rendering.forEach first items position)
      (Rendering.forEach second items position) := by
  induction items generalizing position with
  | nil => exact pure rfl
  | cons item items ih => exact bind (steps item position) fun _ _ _ => ih (position + 1)

end Relates

/-! ## The same bodies in two scopes -/

/-- A lookup of a name gives the same in corresponding scopes, or the second may stop there. -/
def Looks (coupling : Coupling) (name : String) : Prop :=
  ∀ scope other, coupling.scopes scope other →
    (∃ error, other.lookup name = .error error ∧ coupling.stops error) ∨
      (other.lookup name = scope.lookup name ∧
        ∀ missed, scope.lookup name = .error (.nameNotFound missed) → coupling.misses missed)

/-- A name can be added to corresponding scopes. -/
def Adds (coupling : Coupling) (name : String) : Prop :=
  ∀ scope other value, coupling.scopes scope other → other.hasVar name = scope.hasVar name ∧
    coupling.scopes (scope.addVar name value) (other.addVar name value)

/-- The fresh scopes of an include correspond. -/
def Includes (coupling : Coupling) : Prop :=
  ∀ scope other vars, coupling.scopes scope other →
    coupling.scopes { vars, globals := scope.globals, policy := scope.policy }
      { vars, globals := other.globals, policy := other.policy }

/-- What a part of a body asks of corresponding scopes. -/
def Supports (coupling : Coupling) : Part → Prop
  | .expr (.lookup name) => coupling.Looks name
  | .expr (.lookupOrNull name) => coupling.Looks name
  | .expr (.add name _) => coupling.Adds name
  | .expr (.includeTemplate _ _) => coupling.Includes
  | _ => True

/-- Only equal pages correspond to each other. -/
def SamePages (coupling : Coupling) : Prop :=
  ∀ left right, coupling.pages left right ↔ left = right

/-- A coupling of runs that use the same defs, all of which are of a family. -/
structure Follows (coupling : Coupling) (family : Def → Prop) : Prop where
  pages : ∀ left right, coupling.pages left right ↔ left = right
  within : ∀ {scope other}, coupling.scopes scope other → scope.Within family
  defs : ∀ {scope other}, coupling.scopes scope other → other.defs = scope.defs
  bindInto : ∀ {scope other} {template : Template}, coupling.scopes scope other →
    template.Within family → coupling.scopes (template.bindInto scope) (template.bindInto other)
  closed : Def.Closed family
  parts : ∀ definition, family definition → ∀ part ∈ definition.parts, coupling.Supports part

/-- A step does the same in both runs. -/
def Simulates (coupling : Coupling) (step : Rendering α) : Prop :=
  coupling.Relates Eq step step

/-- What has to be shown of a part: that what it asks of the scope does the same in both runs. -/
def Admits (coupling : Coupling) (invoke : Invocation) (dependencies : List Template) :
    Part → Prop
  | .expr (.lookup name) => coupling.Looks name
  | .expr (.lookupOrNull name) => coupling.Looks name
  | .expr (.add name _) => coupling.Adds name
  | .expr (.hasDef name) =>
      ∀ scope other, coupling.scopes scope other → other.hasDef name = scope.hasDef name
  | .expr (.call name _) =>
      ∀ arguments, coupling.Simulates (Rendering.callDef invoke name arguments)
  | .expr (.includeTemplate index _) =>
      ∀ template, dependencies[index]? = some template →
        ∀ vars, coupling.Simulates (Rendering.includeTemplate invoke template vars)
  | .expr (.importCall index name _) =>
      ∀ template, dependencies[index]? = some template →
        ∀ arguments, coupling.Simulates (Rendering.importCall invoke template name arguments)
  | _ => True

/-- Invoking a def of a family does the same in both runs. -/
def SimulatesAll (coupling : Coupling) (family : Def → Prop) (invoke : Invocation) : Prop :=
  ∀ definition arguments, family definition → coupling.Simulates (invoke definition arguments)

namespace Simulates

theorem bind {first : Rendering α} {next : α → Rendering β} (step : coupling.Simulates first)
    (nexts : ∀ value, coupling.Simulates (next value)) : coupling.Simulates (first >>= next) := by
  refine Relates.bind step fun value other same => ?_
  subst same
  exact nexts value

theorem pure (value : α) : coupling.Simulates (pure value) :=
  Relates.pure rfl

theorem reads_bind {step : Rendering α} {promise : α → Prop} {next : α → Rendering β}
    (reads : Rendering.Reads promise step)
    (nexts : ∀ value, promise value → coupling.Simulates (next value)) :
    coupling.Simulates (step >>= next) := by
  cases reads with
  | value promised => exact nexts _ promised
  | error other => exact Relates.fail fun name same => absurd same (other name)

theorem lookup {name : String} (looks : coupling.Looks name) :
    coupling.Simulates (Rendering.lookup name) := by
  intro left right result after at_start ended
  rw [Rendering.lookup_apply] at ended ⊢
  rcases looks left.scope right.scope at_start.1 with ⟨error, missing, allowed⟩ | ⟨same, allowed⟩
  · rw [missing]
    exact .inl ⟨error, right, rfl, allowed⟩
  · rw [same]
    match found : left.scope.lookup name with
    | .error error =>
        rw [found] at ended allowed
        cases ended
        refine .inr ⟨_, right, rfl, ⟨rfl, fun name same => ?_⟩, at_start⟩
        exact allowed name (same ▸ rfl)
    | .ok (some value) =>
        rw [found] at ended
        cases ended
        exact .inr ⟨_, right, rfl, rfl, at_start⟩
    | .ok none =>
        rw [found] at ended
        cases ended
        exact .inr ⟨_, _, rfl, rfl, at_start⟩

theorem lookupOrNull {name : String} (looks : coupling.Looks name) :
    coupling.Simulates (Rendering.lookupOrNull name) := by
  rw [Rendering.lookupOrNull_eq]
  exact .bind (.lookup looks) fun _ => .pure _

theorem addVar {name : String} (adds : coupling.Adds name) (value : Json) :
    coupling.Simulates (Rendering.addVar name value) := by
  intro left right result after at_start ended
  cases ended
  obtain ⟨same, related⟩ := adds left.scope right.scope value at_start.1
  refine .inr ⟨_, _, rfl, ?_, related, at_start.2⟩
  rw [same]
  exact rfl

theorem modifyPage (pages : coupling.SamePages) (change : Buffer → Buffer) :
    coupling.Simulates (Rendering.modifyPage change) := by
  refine Relates.modifyPage fun left right same => ?_
  rw [(pages left right).mp same]
  exact (pages _ _).mpr rfl

theorem collect (pages : coupling.SamePages) {step : Rendering Unit}
    (simulates : coupling.Simulates step) : coupling.Simulates (Rendering.collect step) := by
  have blank := (pages {} {}).mpr rfl
  intro left right result after at_start ended
  rcases Relates.collect blank simulates left right result after at_start ended with
    early | ⟨other, stopped, run, agree, at_end⟩
  · exact .inl early
  · refine .inr ⟨other, stopped, run, ?_, at_end⟩
    match result, other with
    | .ok nested, .ok nested' => exact (pages nested nested').mp agree
    | .error _, .error _ => exact agree

end Simulates

end Coupling

/-- What a template exports depends on the defs of the scope only. -/
theorem Template.exports_congr (template : Template) {scope other : Scope}
    (same : other.defs = scope.defs) : template.exports other = template.exports scope := by
  have bound : ∀ (defs : List (String × Def)) {scope other : Scope}, other.defs = scope.defs →
      (other.addDefs defs).defs = (scope.addDefs defs).defs := by
    intro defs
    induction defs with
    | nil => exact fun same => same
    | cons entry rest ih =>
        intro scope other same
        refine ih ?_
        simp only [Scope.addDef, same]
  simp only [exports_eq, bindInto_eq_addDefs, bound _ same, Scope.hasDef, same]

namespace Rendering

variable {coupling : Coupling} {family : Def → Prop} {invoke : Invocation}

theorem callDef_simulates (follows : coupling.Follows family)
    (invocations : coupling.SimulatesAll family invoke) (name : String) (arguments : List Json) :
    coupling.Simulates (callDef invoke name arguments) := by
  refine Coupling.Relates.bind .scope fun scope other related => ?_
  have same : other.def? name = scope.def? name := by
    rw [Scope.def?, Scope.def?, follows.defs related]
  rw [same]
  cases found : scope.def? name with
  | some definition =>
      exact invocations definition arguments ((follows.within related).def? found)
  | none =>
      refine .fail ?_
      rintro _ ⟨⟩

theorem runMain_simulates (follows : coupling.Follows family)
    (invocations : coupling.SimulatesAll family invoke) (template : String) :
    coupling.Simulates (runMain invoke template) := by
  refine Coupling.Relates.bind .scope fun scope other related => ?_
  have same : other.def? Template.mainName = scope.def? Template.mainName := by
    rw [Scope.def?, Scope.def?, follows.defs related]
  rw [same]
  cases found : scope.def? Template.mainName with
  | some main =>
      refine .bind (.note _ _) fun _ _ _ => ?_
      exact invocations main [] ((follows.within related).def? found)
  | none =>
      refine .fail ?_
      rintro _ ⟨⟩

theorem includeTemplate_simulates (follows : coupling.Follows family)
    (invocations : coupling.SimulatesAll family invoke) (includes : coupling.Includes)
    {template : Template} (offered : template.Within family) (vars : Table Json) :
    coupling.Simulates (includeTemplate invoke template vars) := by
  refine Coupling.Relates.bind .scope fun scope other related => ?_
  refine .bind (.note _ _) fun _ _ _ => ?_
  refine .inScope ?_ (runMain_simulates follows invocations template.id)
  exact follows.bindInto (includes scope other vars related) offered

theorem importCall_simulates (follows : coupling.Follows family)
    (invocations : coupling.SimulatesAll family invoke) {template : Template}
    (offered : template.Within family) (name : String) (arguments : List Json) :
    coupling.Simulates (importCall invoke template name arguments) := by
  refine Coupling.Relates.bind .scope fun scope other related => ?_
  refine .bind (.note _ _) fun _ _ _ => ?_
  rw [template.exports_congr (follows.defs related)]
  split
  · exact .inScope (follows.bindInto related offered)
      (callDef_simulates follows invocations name arguments)
  · exact .fail nofun

end Rendering

open Rendering Coupling

mutual

theorem Expr.eval_simulates {coupling : Coupling} {invoke : Invocation}
    (pages : coupling.SamePages) (frame : Frame) :
    (expr : Expr) → (∀ part ∈ expr.parts, coupling.Admits invoke frame.dependencies part) →
      coupling.Simulates (expr.eval invoke frame)
  | .literal value, _ => .pure value
  | .parse source _, _ => .reads_bind (Json.read_reads source) fun _ _ => .pure _
  | .buffer body, admits => by
      have inside := (List.forall_mem_cons.mp admits).2
      have run := Stmt.runAll_simulates pages frame body inside
      exact .bind (.collect pages run) fun _ => .pure _
  | .markupOf body, admits => by
      have inside := (List.forall_mem_cons.mp admits).2
      have run := Stmt.runAll_simulates pages frame body inside
      exact .bind (.collect pages run) fun _ => .pure _
  | .escape expr, admits => by
      have inside := (List.forall_mem_cons.mp admits).2
      exact .bind (expr.eval_simulates pages frame inside) fun _ => .pure _
  | .lookup name, admits => .bind (.lookup (admits _ List.mem_cons_self)) fun _ => .pure _
  | .lookupOrNull name, admits =>
      .bind (.lookupOrNull (admits _ List.mem_cons_self)) fun _ => .pure _
  | .orElse first second, admits => by
      obtain ⟨left, right⟩ := List.forall_mem_append.mp (List.forall_mem_cons.mp admits).2
      refine .bind (first.eval_simulates pages frame left) fun value => ?_
      split
      · exact second.eval_simulates pages frame right
      · exact .pure _
  | .argument index, _ => .reads_bind (frame.argument_reads index) fun _ _ => .pure _
  | .item, _ => .reads_bind frame.currentItem_reads fun _ _ => .pure _
  | .index, _ => .reads_bind frame.currentItem_reads fun _ _ => .pure _
  | .isOdd, _ => .reads_bind frame.currentItem_reads fun _ _ => .pure _
  | .add name expr, admits => by
      obtain ⟨adds, inside⟩ := List.forall_mem_cons.mp admits
      refine .bind (expr.eval_simulates pages frame inside) fun value => ?_
      exact .bind (.addVar adds value.toJson) fun _ => .pure _
  | .hasDef name, admits => by
      refine Relates.bind .scope fun scope other related => ?_
      have same : other.hasDef name = scope.hasDef name :=
        admits _ List.mem_cons_self scope other related
      rw [same]
      exact .pure rfl
  | .call name arguments, admits => by
      obtain ⟨called, inside⟩ := List.forall_mem_cons.mp admits
      refine .bind (Expr.evalAll_simulates pages frame arguments inside) fun values => ?_
      exact .bind (called _) fun _ => .pure _
  | .includeTemplate index vars, admits => by
      obtain ⟨included, inside⟩ := List.forall_mem_cons.mp admits
      refine .bind (Expr.evalPairs_simulates pages frame vars inside) fun values =>
        .reads_bind (frame.dependency_reads_at index) fun template used => ?_
      exact .bind (included template used _) fun _ => .pure _
  | .importCall index name arguments, admits => by
      obtain ⟨imported, inside⟩ := List.forall_mem_cons.mp admits
      refine .bind (Expr.evalAll_simulates pages frame arguments inside) fun values =>
        .reads_bind (frame.dependency_reads_at index) fun template used => ?_
      exact .bind (imported template used _) fun _ => .pure _

theorem Expr.evalAll_simulates {coupling : Coupling} {invoke : Invocation}
    (pages : coupling.SamePages) (frame : Frame) :
    (exprs : List Expr) →
      (∀ part ∈ Expr.partsOf exprs, coupling.Admits invoke frame.dependencies part) →
      coupling.Simulates (Expr.evalAll invoke frame exprs)
  | [], _ => .pure _
  | expr :: exprs, admits => by
      obtain ⟨first, others⟩ := List.forall_mem_append.mp admits
      refine .bind (expr.eval_simulates pages frame first) fun value => ?_
      exact .bind (Expr.evalAll_simulates pages frame exprs others) fun _ => .pure _

theorem Expr.evalPairs_simulates {coupling : Coupling} {invoke : Invocation}
    (pages : coupling.SamePages) (frame : Frame) :
    (pairs : List (String × Expr)) →
      (∀ part ∈ Expr.partsOfPairs pairs, coupling.Admits invoke frame.dependencies part) →
      coupling.Simulates (Expr.evalPairs invoke frame pairs)
  | [], _ => .pure _
  | (name, expr) :: pairs, admits => by
      obtain ⟨first, others⟩ := List.forall_mem_append.mp admits
      refine .bind (expr.eval_simulates pages frame first) fun value => ?_
      exact .bind (Expr.evalPairs_simulates pages frame pairs others) fun _ => .pure _

theorem Stmt.run_simulates {coupling : Coupling} {invoke : Invocation}
    (pages : coupling.SamePages) (frame : Frame) :
    (stmt : Stmt) → (∀ part ∈ stmt.parts, coupling.Admits invoke frame.dependencies part) →
      coupling.Simulates (stmt.run invoke frame)
  | .write exprs, admits => by
      have inside := (List.forall_mem_cons.mp admits).2
      exact .bind (Expr.evalAll_simulates pages frame exprs inside) fun _ => .modifyPage pages _
  | .writeEscaped exprs, admits => by
      have inside := (List.forall_mem_cons.mp admits).2
      exact .bind (Expr.evalAll_simulates pages frame exprs inside) fun _ => .modifyPage pages _
  | .writeArguments, _ => by
      rw [Stmt.run]
      exact .modifyPage pages _
  | .attributes pairs, admits => by
      have inside := (List.forall_mem_cons.mp admits).2
      exact .bind (Expr.evalPairs_simulates pages frame pairs inside) fun _ => .modifyPage pages _
  | .attributesOf expr, admits => by
      have inside := (List.forall_mem_cons.mp admits).2
      refine .bind (expr.eval_simulates pages frame inside) fun value => ?_
      exact .reads_bind value.fields_reads fun _ _ => .modifyPage pages _
  | .forEach expr complaint body, admits => by
      obtain ⟨first, repeated⟩ := List.forall_mem_append.mp (List.forall_mem_cons.mp admits).2
      refine .bind (expr.eval_simulates pages frame first) fun value => ?_
      refine .reads_bind (value.items_reads complaint) fun items _ => ?_
      refine Relates.forEach (fun item position => ?_) items 0
      exact Stmt.runAll_simulates pages { frame with current := some (item, position) } body
        repeated
  | .cond expr whenTrue whenFalse, admits => by
      obtain ⟨first, branches⟩ := List.forall_mem_append.mp (List.forall_mem_cons.mp admits).2
      obtain ⟨left, right⟩ := List.forall_mem_append.mp branches
      refine .bind (expr.eval_simulates pages frame first) fun value => ?_
      split
      · exact Stmt.runAll_simulates pages frame whenTrue left
      · exact Stmt.runAll_simulates pages frame whenFalse right
  | .discard expr, admits => by
      have inside := (List.forall_mem_cons.mp admits).2
      exact .bind (expr.eval_simulates pages frame inside) fun _ => .pure _
  | .fail _, _ => Relates.fail nofun

theorem Stmt.runAll_simulates {coupling : Coupling} {invoke : Invocation}
    (pages : coupling.SamePages) (frame : Frame) :
    (stmts : List Stmt) →
      (∀ part ∈ Stmt.partsOf stmts, coupling.Admits invoke frame.dependencies part) →
      coupling.Simulates (Stmt.runAll invoke frame stmts)
  | [], _ => .pure _
  | stmt :: stmts, admits => by
      obtain ⟨first, others⟩ := List.forall_mem_append.mp admits
      refine .bind (stmt.run_simulates pages frame first) fun _ => ?_
      exact Stmt.runAll_simulates pages frame stmts others

end

/-- Invoking a def does the same in both runs if its parts do, with one level less to spend. -/
theorem Def.invoke_simulates_succ {coupling : Coupling} (pages : coupling.SamePages) {depth : Nat}
    {definition : Def}
    (admits : ∀ part ∈ definition.parts,
      coupling.Admits (Def.invoke depth) definition.dependencies part) (arguments : List Json) :
    coupling.Simulates (Def.invoke (depth + 1) definition arguments) :=
  .collect pages (Stmt.runAll_simulates pages
    { arguments, dependencies := definition.dependencies } definition.body admits)

/-- Of a def from a family, lookups, additions and includes are all that has to be looked at. -/
theorem Coupling.Follows.admits {coupling : Coupling} {family : Def → Prop} {invoke : Invocation}
    (follows : coupling.Follows family) (invocations : coupling.SimulatesAll family invoke)
    {definition : Def} (member : family definition) {part : Part}
    (inside : part ∈ definition.parts) :
    coupling.Admits invoke definition.dependencies part := by
  have supports := follows.parts definition member part inside
  have offered : ∀ {index : Nat} {template : Template},
      definition.dependencies[index]? = some template → template.Within family :=
    fun used => follows.closed definition member _ (List.mem_of_getElem? used)
  unfold Admits
  split
  · exact supports
  · exact supports
  · exact supports
  · intro scope other related
    rw [Scope.hasDef, Scope.hasDef, follows.defs related]
  · exact callDef_simulates follows invocations _
  · exact fun template used => includeTemplate_simulates follows invocations supports (offered used)
  · exact fun template used => importCall_simulates follows invocations (offered used) _
  · trivial

/-- Invoking a def does the same in both runs, at every depth. -/
theorem Def.invoke_simulates {coupling : Coupling} {family : Def → Prop}
    (follows : coupling.Follows family) (depth : Nat) :
    coupling.SimulatesAll family (Def.invoke depth) := by
  induction depth with
  | zero => exact fun _ _ _ _ _ _ _ _ ended => nomatch ended
  | succ depth ih =>
      intro definition arguments member
      exact Def.invoke_simulates_succ follows.pages
        (fun _ inside => follows.admits ih member inside) arguments

/-- The second of two renders ends whenever the first does, if their entry points correspond. -/
theorem Bound.render_of_simulates {coupling : Coupling} (pages : coupling.SamePages)
    {bound other : Bound} {depth : Nat} {run : Run String Bound}
    (simulates : coupling.Simulates (runMain (Def.invoke depth) bound.id))
    (ended : bound.render depth = some run)
    (related : coupling.scopes bound.scope other.scope) (same : other.id = bound.id) :
    ∃ second, other.render depth = some second ∧
      ((∃ error, second.outcome = .error error ∧ coupling.stops error) ∨
        (second.outcome = run.outcome ∧
          coupling.scopes run.state.scope second.state.scope ∧
          ∀ name, run.outcome = .error (.nameNotFound name) → coupling.misses name)) := by
  rw [Bound.render_eq, Option.map_eq_some_iff] at ended
  obtain ⟨⟨result, after⟩, ran, rfl⟩ := ended
  have at_start : coupling.At { scope := bound.scope } { scope := other.scope } :=
    ⟨related, (pages {} {}).mpr rfl⟩
  rw [Bound.render_eq, same]
  rcases simulates _ _ result after at_start ran with
    ⟨error, stopped, run, allowed⟩ | ⟨outcome, stopped, run, agree, at_end⟩
  · exact ⟨_, Option.map_eq_some_iff.mpr ⟨_, run, rfl⟩, .inl ⟨error, rfl, allowed⟩⟩
  · refine ⟨_, Option.map_eq_some_iff.mpr ⟨_, run, rfl⟩, .inr ⟨?_, at_end.1, ?_⟩⟩
    · match result, outcome with
      | .ok _, .ok _ => rw [agree]
      | .error _, .error _ => rw [agree.1]
    · intro name reported
      match result, outcome with
      | .ok _, _ => cases reported
      | .error _, .error _ =>
          cases reported
          exact agree.2 name rfl

/-- The second of two corresponding renders ends whenever the first does. -/
theorem Bound.render_simulates {coupling : Coupling} {family : Def → Prop}
    (follows : coupling.Follows family) {bound other : Bound} {depth : Nat}
    {run : Run String Bound} (ended : bound.render depth = some run)
    (related : coupling.scopes bound.scope other.scope) (same : other.id = bound.id) :
    ∃ second, other.render depth = some second ∧
      ((∃ error, second.outcome = .error error ∧ coupling.stops error) ∨
        (second.outcome = run.outcome ∧
          coupling.scopes run.state.scope second.state.scope ∧
          ∀ name, run.outcome = .error (.nameNotFound name) → coupling.misses name)) :=
  Bound.render_of_simulates follows.pages
    (runMain_simulates follows (Def.invoke_simulates follows depth) bound.id) ended related same

end Stencil
