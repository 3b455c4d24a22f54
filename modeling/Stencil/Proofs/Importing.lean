import Stencil.Imported
import Stencil.Proofs.Journal
import Stencil.Proofs.Registration
import Stencil.Proofs.Simulation

/-!
# What an import gives to its caller

Importing a template binds it into a copy of a scope. The names that this adds are exported: those
of the template and its ancestors that the caller does not have, without the entry point. They are
listed in byte order, which is the order of every table.

Calls of exported defs run one after the other in the copy (`Imported.Session`). Their journals tell
what becomes of its variables; nothing else of it changes, and the caller's scope does not change at
all.
-/

namespace Stencil

/-! ## Exported names -/

namespace Template

/-- Exported names are listed in strictly increasing order. -/
theorem exports_pairwise (template : Template) (scope : Scope) :
    (template.exports scope).Pairwise (· < ·) := by
  rw [exports_eq]
  exact List.Pairwise.filter _ (template.bindInto scope).defs.ascending

/-- A name is exported if the template or an ancestor has a def of it and the caller has none. -/
theorem mem_exports_iff {template : Template} {scope : Scope} {name : String} :
    name ∈ template.exports scope ↔
      name ∈ template.lineage.map Prod.fst ∧ name ≠ mainName ∧ scope.def? name = none := by
  have bound : (template.bindInto scope).defs.get? name = _ := template.def?_bindInto scope name
  have named : name ∈ template.lineage.map Prod.fst ↔
      (template.lineage.find? (·.1 = name)).isSome = true := by
    simp [List.find?_isSome]
  rw [exports_eq, List.mem_filter, Table.mem_names_iff, bound, named, Scope.hasDef, Table.contains,
    ← Scope.def?]
  cases scope.def? name with
  | some definition => simp
  | none =>
      by_cases main : name = mainName
      · simp [main]
      · simp [main]

/-- A template that is bound already has nothing to export. -/
theorem exports_bindInto (template : Template) (scope : Scope) :
    template.exports (template.bindInto scope) = [] := by
  rw [exports_eq, bindInto_bindInto, List.filter_eq_nil_iff]
  intro name listed
  have bound : (template.bindInto scope).hasDef name = true := Table.mem_names_iff.mp listed
  simp [bound]

/-- An exported name means the first def of the template and its ancestors. -/
theorem def?_of_exported {template : Template} {scope : Scope} {name : String}
    (exported : name ∈ template.exports scope) :
    ∃ definition, template.lineage.find? (·.1 = name) = some (name, definition) ∧
      (template.bindInto scope).def? name = some definition := by
  obtain ⟨listed, _, absent⟩ := mem_exports_iff.mp exported
  obtain ⟨entry, offered, rfl⟩ := List.mem_map.mp listed
  have some_offered : (template.lineage.find? (·.1 = entry.1)).isSome = true :=
    List.find?_isSome.mpr ⟨entry, offered, by simp⟩
  obtain ⟨first, found⟩ := Option.isSome_iff_exists.mp some_offered
  have same : first.1 = entry.1 := by simpa using List.find?_some found
  refine ⟨first.2, ?_, ?_⟩
  · rw [found, ← same]
  · rw [def?_bindInto, absent, found]
    rfl

end Template

/-! ## Calls of exported defs -/

namespace Imported

variable {imported : Imported} {depth : Nat} {name : String} {arguments : List Json}

/-- The actions of a call on the scope of an import. -/
def actions (imported : Imported) (depth : Nat) (name : String) (arguments : List Json) :
    List Action :=
  if imported.contains name then
    Journal.callDef (Def.journal depth) name arguments { scope := imported.scope }
  else []

/-- Calls on an import one after the other, successful or not. -/
inductive Session : Imported → List Action → Imported → Prop where
  | nil (imported : Imported) : Session imported [] imported
  | cons {imported final : Imported} {depth : Nat} {name : String} {arguments : List Json}
      {run : Run Buffer Imported} {later : List Action}
      (called : imported.call depth name arguments = some run)
      (rest : Session run.state later final) :
      Session imported (imported.actions depth name arguments ++ later) final

theorem contains_iff : imported.contains name = true ↔ name ∈ imported.names :=
  List.contains_iff_mem

/-- A name that is not exported cannot be called, and nothing happens. -/
theorem call_of_not_exported (hidden : name ∉ imported.names) (depth : Nat)
    (arguments : List Json) :
    imported.call depth name arguments =
      some { outcome := .error (.defNotFound name), state := imported, events := [] } := by
  rw [call, if_neg (by rwa [contains_iff])]

/-- Calling an exported name is invoking the def it means in the copied scope. -/
theorem call_of_def {definition : Def} (exported : name ∈ imported.names)
    (found : imported.scope.def? name = some definition) (depth : Nat) (arguments : List Json) :
    imported.call depth name arguments =
      ((Def.invoke depth definition arguments).run imported.scope).map fun run =>
        run.mapState fun scope => { imported with scope } := by
  have called : Rendering.callDef (Def.invoke depth) name arguments { scope := imported.scope } =
      Def.invoke depth definition arguments { scope := imported.scope } := by
    simp only [Rendering.callDef, Rendering.bind_apply, Rendering.scope_apply, found]
  rw [call, if_pos (contains_iff.mpr exported), Rendering.run, called]
  rfl

/-- A call keeps the names, and its journal accounts for the scope. -/
theorem call_replays {run : Run Buffer Imported}
    (called : imported.call depth name arguments = some run) :
    run.state.names = imported.names ∧
      imported.scope.Replays (imported.actions depth name arguments) run.state.scope := by
  rw [actions]
  by_cases exported : name ∈ imported.names
  · rw [call, if_pos (contains_iff.mpr exported)] at called
    rw [if_pos (contains_iff.mpr exported)]
    simp only [Rendering.run, Option.map_map, Option.map_eq_some_iff] at called
    obtain ⟨⟨result, after⟩, ran, rfl⟩ := called
    exact ⟨rfl, Rendering.callDef_records (Def.invoke_records depth) name arguments _ _ _ ran⟩
  · rw [call_of_not_exported exported] at called
    rw [if_neg (by rwa [contains_iff])]
    cases called
    exact ⟨rfl, .nil _⟩

theorem Session.replays {final : Imported} {actions : List Action}
    (session : imported.Session actions final) :
    final.names = imported.names ∧ imported.scope.Replays actions final.scope := by
  induction session with
  | nil => exact ⟨rfl, .nil _⟩
  | cons called _ ih =>
      obtain ⟨names, first⟩ := call_replays called
      obtain ⟨same, second⟩ := ih
      exact ⟨same.trans names, first.append second⟩

end Imported

/-! ## The scope of the caller -/

/-- Two runs in the same scope, whatever they have noted before. -/
def Coupling.sameness : Coupling where
  scopes := Eq

namespace Coupling

theorem sameness_follows : sameness.Follows fun _ => True where
  pages _ _ := Iff.rfl
  within _ _ _ := trivial
  defs same := by rw [same]
  bindInto same _ := by rw [same]; rfl
  closed _ _ _ _ _ _ := trivial
  parts _ _ part _ := by
    have looks : ∀ name, sameness.Looks name := by
      rintro name scope _ rfl
      exact .inr ⟨rfl, fun _ _ => trivial⟩
    unfold Supports
    split
    · exact looks _
    · exact looks _
    · rintro scope _ value rfl
      exact ⟨rfl, rfl⟩
    · rintro scope _ vars rfl
      rfl
    · trivial

/-- What was noted before a step decides neither its result nor what becomes of the scope. -/
theorem sameness_ignores_events {α : Type} {step : Rendering α}
    (simulates : sameness.Simulates step) (progress : Progress) (events : Array Event) :
    (step { progress with events }).map (fun ended => (ended.1, ended.2.scope)) =
      (step progress).map fun ended => (ended.1, ended.2.scope) := by
  have carried : ∀ left right : Progress, sameness.At left right → ∀ result after,
      step left = some (result, after) →
        (step right).map (fun ended => (ended.1, ended.2.scope)) = some (result, after.scope) := by
    intro left right start result after ended
    rcases simulates left right result after start ended with
      ⟨_, _, _, impossible⟩ | ⟨other, stopped, run, agree, same, _⟩
    · exact impossible.elim
    · rw [run, same]
      match result, other with
      | .ok _, .ok _ => rw [agree]; rfl
      | .error _, .error _ => rw [agree.1]; rfl
  match first : step progress with
  | some (result, after) =>
      exact carried progress { progress with events } ⟨rfl, rfl⟩ result after first
  | none =>
      match second : step { progress with events } with
      | none => rfl
      | some (result, after) =>
          have impossible :=
            carried { progress with events } progress ⟨rfl, rfl⟩ result after second
          rw [first] at impossible
          cases impossible

end Coupling

theorem Rendering.inScope_eq_map {α : Type} (other : Scope) (step : Rendering α)
    (progress : Progress) :
    inScope other step progress = (step { progress with scope := other }).map fun ended =>
      (ended.1, { ended.2 with scope := progress.scope }) := by
  rw [inScope]
  cases step { progress with scope := other } <;> rfl

/-- A body that calls an imported def gets what the call gives, and its scope is left as it was. -/
theorem Rendering.importCall_run (template : Template) (scope : Scope) (depth : Nat)
    (name : String) (arguments : List Json) :
    ((importCall (Def.invoke depth) template name arguments).run scope).map
        (fun run => (run.outcome, run.state)) =
      ((template.importInto scope).call depth name arguments).map fun run =>
        (run.outcome, scope) := by
  -- The body has noted the import when the call begins.
  obtain ⟨noted, begun⟩ : ∃ noted, importCall (Def.invoke depth) template name arguments { scope } =
      (if (template.exports scope).contains name then
        inScope (template.bindInto scope) (callDef (Def.invoke depth) name arguments)
      else fail (.defNotFound name)) { scope, events := noted } := ⟨_, rfl⟩
  have given : (template.importInto scope).contains name =
      (template.exports scope).contains name := rfl
  rw [Rendering.run, begun, Imported.call, given]
  by_cases exported : (template.exports scope).contains name = true
  · have alike := Coupling.sameness_ignores_events
      (callDef_simulates Coupling.sameness_follows
        (Def.invoke_simulates Coupling.sameness_follows depth) name arguments)
      { scope := template.bindInto scope } noted
    have outcomes := congrArg (Option.map fun ended => (ended.1, scope)) alike
    rw [if_pos exported, if_pos exported, inScope_eq_map]
    simp only [Rendering.run, Option.map_map] at outcomes ⊢
    exact outcomes
  · rw [if_neg exported, if_neg exported]
    rfl

namespace Template

/-- After any calls on an import, its scope is the caller's with the template bound into it. -/
theorem importInto_session {template : Template} {scope : Scope} {actions : List Action}
    {imported : Imported} (session : (template.importInto scope).Session actions imported) :
    imported.names = template.exports scope ∧
      imported.scope =
        { scope with vars := imported.scope.vars, defs := (template.bindInto scope).defs } ∧
      ∀ name, imported.scope.vars.get? name =
        (scope.vars.get? name).or (Action.firstAdded name actions) := by
  obtain ⟨names, replays⟩ := session.replays
  change Scope.Replays (template.bindInto scope) actions imported.scope at replays
  have values := replays.get?_vars
  rw [bindInto_eq] at replays values
  exact ⟨names, replays.eq_withVars, values⟩

/--
An import exports what binding adds. Its names are those of the template and its ancestors that the
caller has no def of, without the entry point, in byte order. After any calls on it, its scope has
the defs of the caller in preference to those of the template, the caller's globals and policy, and
the caller's variables with what the calls have added. A name that is not exported cannot be called;
an exported one means the first def of the template and its ancestors, which runs in that scope. The
scope of the caller is left as it is, and a template that is bound already exports nothing.
-/
theorem import_exports_added_defs (template : Template) (scope : Scope) :
    ((template.importInto scope).names.Pairwise fun first second =>
      Text.utf8 first < Text.utf8 second) ∧
    (∀ name, name ∈ (template.importInto scope).names ↔
      name ∈ template.lineage.map Prod.fst ∧ name ≠ mainName ∧ scope.def? name = none) ∧
    (∀ name, (template.importInto scope).contains name = true ↔
      name ∈ (template.importInto scope).names) ∧
    (∀ actions imported, (template.importInto scope).Session actions imported →
      imported.names = (template.importInto scope).names ∧
      (∀ name, imported.scope.def? name =
        (scope.def? name <|> (template.lineage.find? (·.1 = name)).map Prod.snd <|>
          if name = mainName then some template.entryPoint else none)) ∧
      imported.scope.globals = scope.globals ∧ imported.scope.policy = scope.policy ∧
      (∀ name, imported.scope.vars.get? name =
        (scope.vars.get? name).or (Action.firstAdded name actions)) ∧
      (∀ name, name ∉ imported.names → ∀ depth arguments,
        imported.call depth name arguments =
          some { outcome := .error (.defNotFound name), state := imported, events := [] }) ∧
      ∀ name, name ∈ imported.names → ∃ definition,
        template.lineage.find? (·.1 = name) = some (name, definition) ∧
        ∀ depth arguments, imported.call depth name arguments =
          ((Def.invoke depth definition arguments).run imported.scope).map fun run =>
            run.mapState fun after => { imported with scope := after }) ∧
    (∀ depth name arguments,
      ((Rendering.importCall (Def.invoke depth) template name arguments).run scope).map
          (fun run => (run.outcome, run.state)) =
        ((template.importInto scope).call depth name arguments).map fun run =>
          (run.outcome, scope)) ∧
    (template.importInto (template.bindInto scope)).names = [] := by
  refine ⟨(template.exports_pairwise scope).imp Text.utf8_lt, fun name => mem_exports_iff,
    fun name => Imported.contains_iff, fun actions imported session => ?_,
    Rendering.importCall_run template scope, template.exports_bindInto scope⟩
  obtain ⟨names, frame, values⟩ := importInto_session session
  have defs : ∀ name, imported.scope.def? name = (template.bindInto scope).def? name := by
    intro name
    rw [frame]
    rfl
  refine ⟨names, fun name => (defs name).trans (template.def?_bindInto scope name), by rw [frame],
    by rw [frame], values, fun name hidden => Imported.call_of_not_exported hidden, ?_⟩
  intro name exported
  obtain ⟨definition, first, bound⟩ := def?_of_exported (names ▸ exported)
  exact ⟨definition, first, Imported.call_of_def exported ((defs name).trans bound)⟩

/-- A def that greets the first visitor, under a title, and a title that the caller has already. -/
def greeters : Template :=
  .root "greeters" (.mk [] []) [
    ("welcome", .mk [
      .discard (.add "first" (.argument 0)),
      .write [.call "title" []],
      .writeEscaped [.lookup "first"]] []),
    ("title", .mk [.text "Hello, "] [])]

/-- A scope that has a title. -/
def doorkeeper : Scope :=
  { vars := ∅, defs := .ofList [("title", .mk [.text "Welcome, "] [])] }

/-- Two calls on an import: the second is told of the visitor of the first. -/
theorem greeters_import_remembers_visitor :
    ∃ actions imported, (greeters.importInto doorkeeper).Session actions imported ∧
      imported.scope.vars.get? "first" = some (.string "Ada") ∧
      imported.names = (greeters.importInto doorkeeper).names ∧
      imported.call 1 "title" [] =
        some { outcome := .error (.defNotFound "title"), state := imported, events := [] } := by
  have ends : (((greeters.importInto doorkeeper).call 2 "welcome" [.string "Ada"]).bind fun run =>
      run.state.call 2 "welcome" [.string "Bob"]).isSome = true := by
    decide +kernel
  obtain ⟨second, ended⟩ := Option.isSome_iff_exists.mp ends
  obtain ⟨first, begun, continued⟩ := Option.bind_eq_some_iff.mp ended
  have session : (greeters.importInto doorkeeper).Session _ second.state :=
    .cons begun (.cons continued (.nil _))
  obtain ⟨_, exported, _, after, _⟩ := import_exports_added_defs greeters doorkeeper
  obtain ⟨names, _, _, _, values, hidden, _⟩ := after _ _ session
  refine ⟨_, _, session, ?_, names, hidden "title" ?_ 1 []⟩
  · have stored : List.findSome? (Action.added? "first")
        ((greeters.importInto doorkeeper).actions 2 "welcome" [.string "Ada"]) =
          some (.string "Ada") := by
      decide +kernel
    rw [values, Action.firstAdded, List.findSome?_append, stored]
    rfl
  · rw [names, exported]
    rintro ⟨_, _, absent⟩
    cases absent

end Template

end Stencil
