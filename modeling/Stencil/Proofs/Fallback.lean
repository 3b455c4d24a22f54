import Stencil.Proofs.Repetition
import Stencil.Proofs.Simulation

/-!
# Globals as a fallback

A lookup asks the context first and the globals second. As long as no body adds a name or includes a
template, this is the only thing that tells the two apart: a run over a context with globals is a
run over one context that has the entries of both, those of the context before those of the globals
(`Scope.merged`).

Without includes, a run stays in the scope it starts in, apart from imports, which copy it. So it
is followed in one pair of scopes at a time, in which every name means the same (`Scope.Alike`), and
only the defs that are bound there are of interest (`Scope.OnlyReads`).
-/

namespace Stencil

namespace Table

variable {α : Type}

/-- The entries of a table, and others under the names that it lacks. -/
def withFallback (table : Table α) (fallback : Entries α) : Table α :=
  fallback.foldl (fun merged entry => merged.insertNew entry.1 entry.2) table

@[simp]
theorem withFallback_nil (table : Table α) : table.withFallback [] = table := rfl

@[simp]
theorem withFallback_cons (table : Table α) (name : String) (value : α) (rest : Entries α) :
    table.withFallback ((name, value) :: rest) = (table.insertNew name value).withFallback rest :=
  rfl

theorem get?_withFallback (table : Table α) (fallback : Entries α) (name : String) :
    (table.withFallback fallback).get? name = (table.get? name <|> fallback.get? name) := by
  induction fallback generalizing table with
  | nil => simp
  | cons entry rest ih =>
      obtain ⟨key, value⟩ := entry
      rw [withFallback_cons, ih, get?_insertNew, Entries.get?_cons]
      by_cases same : name = key
      · subst same
        cases table.get? name <;> simp
      · simp [same]

end Table

/-! ## Where a run without includes comes to -/

/-- Whether a part includes a template. -/
def Part.isInclude : Part → Bool
  | .expr (.includeTemplate _ _) => true
  | _ => false

/-- The templates that the body of a def imports defs from. -/
def Def.imports (definition : Def) : List Template :=
  definition.parts.filterMap fun
    | .expr (.importCall index _ _) => definition.dependencies[index]?
    | _ => none

theorem Def.mem_imports {definition : Def} {index : Nat} {name : String} {arguments : List Expr}
    {template : Template} (inside : .expr (.importCall index name arguments) ∈ definition.parts)
    (used : definition.dependencies[index]? = some template) : template ∈ definition.imports :=
  List.mem_filterMap.mpr ⟨_, inside, used⟩

namespace Scope

/--
The scopes that the bodies of a run come to without includes: the scope it starts in, and copies in
which a template is bound that a def of the copied scope imports from.
-/
inductive Reaches (start : Scope) : Scope → Prop
  | start : Reaches start start
  | imported {scope : Scope} {name : String} {user : Def} {template : Template} :
      Reaches start scope → scope.def? name = some user → template ∈ user.imports →
      Reaches start (template.bindInto scope)

/-- No def that a run can come to adds a name or includes a template. -/
def OnlyReads (start : Scope) : Prop :=
  ∀ scope, start.Reaches scope → ∀ name definition, scope.def? name = some definition →
    definition.isFreeOf Part.isAddition = true ∧ definition.isFreeOf Part.isInclude = true

theorem Reaches.trans {start middle scope : Scope} (first : start.Reaches middle)
    (second : middle.Reaches scope) : start.Reaches scope := by
  induction second with
  | start => exact first
  | imported _ found used ih => exact ih.imported found used

theorem OnlyReads.imported {scope : Scope} (reads : scope.OnlyReads) {name : String} {user : Def}
    (found : scope.def? name = some user) {template : Template} (used : template ∈ user.imports) :
    (template.bindInto scope).OnlyReads :=
  fun later reached => reads later ((Reaches.imported .start found used).trans reached)

/-- An import adds the defs of a template, but not its entry point, as the caller has one. -/
theorem bindInto_of_main (template : Template) {scope : Scope}
    (main : (scope.def? Template.mainName).isSome) :
    template.bindInto scope = scope.addDefs template.lineage := by
  rw [template.bindInto_eq_addDefs, Template.offers, addDefs_append]
  refine addDefs_of_bound fun entry member => ?_
  obtain rfl := List.mem_singleton.mp member
  rw [def?_addDefs]
  cases found : scope.def? Template.mainName with
  | none => simp [found] at main
  | some _ => rfl

/-- It suffices to look at the bound defs, and at those of the templates that they import from. -/
theorem onlyReads_of_family {family : Def → Prop} {start : Scope}
    (main : (start.def? Template.mainName).isSome) (within : start.Within family)
    (closed : ∀ definition, family definition → ∀ template ∈ definition.imports,
      ∀ entry ∈ template.lineage, family entry.2)
    (reads : ∀ definition, family definition →
      definition.isFreeOf Part.isAddition = true ∧ definition.isFreeOf Part.isInclude = true) :
    start.OnlyReads := by
  have kept : ∀ scope, start.Reaches scope →
      (scope.def? Template.mainName).isSome ∧ scope.Within family := by
    intro scope reached
    induction reached with
    | start => exact ⟨main, within⟩
    | @imported scope name user template _ found used ih =>
        obtain ⟨scope_main, scope_within⟩ := ih
        rw [bindInto_of_main template scope_main]
        constructor
        · rw [def?_addDefs]
          cases found : scope.def? Template.mainName with
          | none => simp [found] at scope_main
          | some _ => rfl
        · intro definition member
          obtain ⟨entry, bound, rfl⟩ := List.mem_map.mp member
          rcases mem_addDefs bound with own | new
          · exact scope_within _ (List.mem_map.mpr ⟨entry, own, rfl⟩)
          · exact closed user (scope_within.def? found) template used entry new
  intro scope reached name definition found
  exact reads definition ((kept scope reached).2.def? found)

/-! ## Scopes in which every name means the same -/

/-- Two scopes that cannot be told apart by reading them. -/
structure Alike (scope other : Scope) : Prop where
  resolve : ∀ name, other.resolve name = scope.resolve name
  defs : other.defs = scope.defs
  policy : other.policy = scope.policy

namespace Alike

variable {scope other : Scope}

theorem symm (alike : scope.Alike other) : other.Alike scope where
  resolve name := (alike.resolve name).symm
  defs := alike.defs.symm
  policy := alike.policy.symm

theorem lookup (alike : scope.Alike other) (name : String) :
    other.lookup name = scope.lookup name := by
  simp only [Scope.lookup, alike.resolve, alike.policy]

theorem def? (alike : scope.Alike other) (name : String) : other.def? name = scope.def? name := by
  rw [Scope.def?, Scope.def?, alike.defs]

theorem addDefs (alike : scope.Alike other) (defs : List (String × Def)) :
    (scope.addDefs defs).Alike (other.addDefs defs) := by
  induction defs generalizing scope other with
  | nil => exact alike
  | cons entry rest ih =>
      refine ih { resolve := alike.resolve, defs := ?_, policy := alike.policy }
      simp only [addDef, alike.defs]

theorem bindInto (alike : scope.Alike other) (template : Template) :
    (template.bindInto scope).Alike (template.bindInto other) := by
  rw [template.bindInto_eq_addDefs, template.bindInto_eq_addDefs]
  exact alike.addDefs template.offers

/-- From scopes that are alike, runs come to scopes that are alike. -/
theorem reaches (alike : scope.Alike other) {later : Scope} (reached : other.Reaches later) :
    ∃ earlier, scope.Reaches earlier ∧ earlier.Alike later := by
  induction reached with
  | start => exact ⟨scope, .start, alike⟩
  | @imported later name user template _ found used ih =>
      obtain ⟨earlier, reached, same⟩ := ih
      rw [same.def?] at found
      exact ⟨template.bindInto earlier, reached.imported found used, same.bindInto template⟩

theorem onlyReads (alike : scope.Alike other) (reads : scope.OnlyReads) : other.OnlyReads := by
  intro later reached name definition found
  obtain ⟨earlier, earlier_reached, same⟩ := alike.reaches reached
  rw [same.def?] at found
  exact reads earlier earlier_reached name definition found

end Alike

/-- A scope whose globals have been moved to its context, behind what the context has. -/
def merged (scope : Scope) : Scope :=
  { scope with vars := scope.vars.withFallback scope.globals.entries, globals := ∅ }

theorem alike_merged (scope : Scope) : scope.Alike scope.merged where
  resolve name := by
    have own : scope.merged.vars.get? name = scope.resolve name :=
      scope.vars.get?_withFallback scope.globals.entries name
    have no_globals : scope.merged.globals.get? name = none := rfl
    rw [Scope.resolve, own, no_globals]
    cases scope.resolve name <;> rfl
  defs := rfl
  policy := rfl

end Scope

/-! ## Two runs in scopes that are alike -/

/-- A run in one scope beside a run in another; neither leaves its scope for good. -/
def Coupling.between (scope other : Scope) : Coupling where
  scopes left right := left = scope ∧ right = other

namespace Coupling

variable {scope other : Scope}

theorem between_pages : (between scope other).SamePages :=
  fun _ _ => Iff.rfl

theorem between_looks (alike : scope.Alike other) (name : String) :
    (between scope other).Looks name := by
  rintro _ _ ⟨rfl, rfl⟩
  exact .inr ⟨alike.lookup name, fun _ _ => trivial⟩

end Coupling

namespace Rendering

variable {scope other : Scope} {invoke : Invocation}

theorem callDef_between (alike : scope.Alike other)
    (invocations : ∀ name definition arguments, scope.def? name = some definition →
      (Coupling.between scope other).Simulates (invoke definition arguments))
    (name : String) (arguments : List Json) :
    (Coupling.between scope other).Simulates (callDef invoke name arguments) := by
  refine Coupling.Relates.bind .scope ?_
  rintro _ _ ⟨rfl, rfl⟩
  rw [alike.def?]
  cases found : Scope.def? _ name with
  | some definition => exact invocations name definition arguments found
  | none => exact .fail nofun

theorem runMain_between (alike : scope.Alike other)
    (invocations : ∀ name definition arguments, scope.def? name = some definition →
      (Coupling.between scope other).Simulates (invoke definition arguments))
    (template : String) : (Coupling.between scope other).Simulates (runMain invoke template) := by
  refine Coupling.Relates.bind .scope ?_
  rintro _ _ ⟨rfl, rfl⟩
  rw [alike.def?]
  cases found : Scope.def? _ Template.mainName with
  | some main => exact .bind (.note _ _) fun _ _ _ => invocations _ main [] found
  | none => exact .fail nofun

/-- An import is followed in the two copies that it makes. -/
theorem importCall_between (alike : scope.Alike other) {template : Template} {name : String}
    {arguments : List Json}
    (inside : (Coupling.between (template.bindInto scope) (template.bindInto other)).Simulates
      (callDef invoke name arguments)) :
    (Coupling.between scope other).Simulates (importCall invoke template name arguments) := by
  refine Coupling.Relates.bind .scope ?_
  rintro _ _ ⟨rfl, rfl⟩
  refine .bind (.note _ _) fun _ _ _ => ?_
  rw [template.exports_congr alike.defs]
  split
  · exact .inScope ⟨rfl, rfl⟩ inside
  · exact .fail nofun

end Rendering

open Rendering

/-- A def that is bound in two scopes that are alike does the same in both, at every depth. -/
theorem Def.invoke_between (depth : Nat) {scope other : Scope} (alike : scope.Alike other)
    (reads : scope.OnlyReads) (name : String) (definition : Def) (arguments : List Json)
    (bound : scope.def? name = some definition) :
    (Coupling.between scope other).Simulates (Def.invoke depth definition arguments) := by
  induction depth generalizing scope other name definition arguments with
  | zero => exact fun _ _ _ _ _ ended => nomatch ended
  | succ depth ih =>
      obtain ⟨additionless, includeless⟩ := reads scope .start name definition bound
      refine Def.invoke_simulates_succ Coupling.between_pages (fun part inside => ?_) arguments
      have not_addition := Def.isFreeOf_iff.mp additionless part inside
      have not_include := Def.isFreeOf_iff.mp includeless part inside
      unfold Coupling.Admits
      split
      · exact Coupling.between_looks alike _
      · exact Coupling.between_looks alike _
      · cases not_addition
      · rintro _ _ ⟨rfl, rfl⟩
        rw [Scope.hasDef, Scope.hasDef, alike.defs]
      · exact callDef_between alike (ih alike reads) _
      · cases not_include
      · intro template used arguments
        -- The imported def runs in the copies, which are alike, and reads only, as the scope does.
        have copies := alike.bindInto template
        have copy_reads := reads.imported bound (Def.mem_imports inside used)
        exact importCall_between alike (callDef_between copies (ih copies copy_reads) _ arguments)
      · trivial

namespace Bound

variable {bound other : Bound}

theorem render_between (alike : bound.scope.Alike other.scope) (same : other.id = bound.id)
    (reads : bound.scope.OnlyReads) {depth : Nat} {run : Run String Bound}
    (ended : bound.render depth = some run) :
    ∃ second, other.render depth = some second ∧ second.outcome = run.outcome := by
  have simulates := runMain_between alike (Def.invoke_between depth alike reads) bound.id
  obtain ⟨second, second_ended, ⟨_, _, impossible⟩ | ⟨outcome, _⟩⟩ :=
    render_of_simulates Coupling.between_pages simulates ended ⟨rfl, rfl⟩ same
  · exact impossible.elim
  · exact ⟨second, second_ended, outcome⟩

/-- In scopes that are alike, renders that only read end in the same way. -/
theorem outcome_of_alike (alike : bound.scope.Alike other.scope) (same : other.id = bound.id)
    (reads : bound.scope.OnlyReads) (depth : Nat) :
    (other.render depth).map Run.outcome = (bound.render depth).map Run.outcome := by
  cases ended : bound.render depth with
  | some run =>
      obtain ⟨second, second_ended, outcome⟩ := render_between alike same reads ended
      rw [second_ended, Option.map_some, Option.map_some, outcome]
  | none =>
      cases second_ended : other.render depth with
      | none => rfl
      | some second =>
          obtain ⟨run, run_ended, _⟩ :=
            render_between alike.symm same.symm (alike.onlyReads reads) second_ended
          exact nomatch ended.symm.trans run_ended

end Bound

/--
Globals are a fallback and nothing else. If no body that a render can come to adds a name or
includes a template, the render ends over a context with globals exactly as it does over one
context without globals, which has the entries of the context and those of the globals under other
names. An entry of the context hides that of the globals whatever it is, null as well.
-/
theorem Template.globals_are_fallback (template : Template) (scope : Scope)
    (reads : (template.bindInto scope).OnlyReads) :
    (∀ name, scope.merged.vars.get? name =
      (scope.vars.get? name <|> scope.globals.get? name)) ∧
    scope.merged.vars.entries.Ascending ∧
    ∀ depth, ((template.bind scope).render depth).map Run.outcome =
      ((template.bind scope.merged).render depth).map Run.outcome := by
  refine ⟨scope.vars.get?_withFallback scope.globals.entries, scope.merged.vars.ascending,
    fun depth => ?_⟩
  have alike : (template.bind scope).scope.Alike (template.bind scope.merged).scope :=
    scope.alike_merged.bindInto template
  exact (Bound.outcome_of_alike alike rfl reads depth).symm

namespace Template

/-- Signs for others to put up. By itself it keeps a record of having been there. -/
def signs : Template :=
  .root "signs" (.mk [.discard (.add "seen" (.literal (.bool true)))] []) [
    ("sign", .mk [
      .writeEscaped [.argument 0, .lookup "colour", .lookup "size"],
      .write [.call "exit" []]] [])]

/-- A lobby with a sign to a place. -/
def lobby : Template :=
  .root "lobby" (.mk [.write [.importCall 0 "sign" [.lookup "place"]]] [signs]) []

/-- A building that says where the exit is, with a colour that the context takes away. -/
def building : Scope where
  vars := .ofList [("colour", .null), ("place", .string "Lift & ")]
  defs := .ofList [("exit", .mk [.writeEscaped [.lookup "way"]] [])]
  globals := .ofList [("colour", .string "red"), ("size", .number (.int 3)), ("way", .string "<-")]
  policy := .strict

/-- The bodies that the lobby can come to in the building. -/
def lobbyBodies : List Def :=
  (lobby.bindInto building).boundDefs ++ signs.lineage.map Prod.snd

theorem eq_signs_of_imported : ∀ definition ∈ lobbyBodies, ∀ template ∈ definition.imports,
    template = signs := by
  have listed : lobbyBodies = [lobby.entryPoint, .mk [.writeEscaped [.lookup "way"]] [], .mk [
      .writeEscaped [.argument 0, .lookup "colour", .lookup "size"],
      .write [.call "exit" []]] []] := rfl
  simp [listed, lobby, entryPoint, Def.imports, Def.parts, Def.body, Def.dependencies,
    Stmt.partsOf, Stmt.inner, Expr.partsOf, Expr.inner]

/-- No body of the lobby adds a name; the entry point of the signs would, but is not imported. -/
theorem lobby_onlyReads : (lobby.bindInto building).OnlyReads := by
  have within : (lobby.bindInto building).Within (· ∈ lobbyBodies) :=
    fun _ member => List.mem_append_left _ member
  have free : lobbyBodies.all (fun definition => definition.isFreeOf Part.isAddition &&
      definition.isFreeOf Part.isInclude) = true := by
    decide +kernel
  refine Scope.onlyReads_of_family (by decide +kernel) within ?_ ?_
  · intro definition member template used entry offered
    obtain rfl := eq_signs_of_imported definition member template used
    exact List.mem_append_right _ (List.mem_map.mpr ⟨entry, offered, rfl⟩)
  · intro definition member
    simpa using List.all_eq_true.mp free definition member

/-- The lobby of the building is the same without globals. -/
theorem lobby_globals_are_fallback :
    ∃ run second, (lobby.bind building).render 4 = some run ∧
      (lobby.bind building.merged).render 4 = some second ∧ building.merged.globals = ∅ ∧
      run.outcome.toOption = some "Lift &amp; null3&lt;-" ∧ second.outcome = run.outcome := by
  have text : (((lobby.bind building).render 4).bind fun run => run.outcome.toOption) =
      some "Lift &amp; null3&lt;-" := by
    decide +kernel
  obtain ⟨run, ended, outcome⟩ := Option.bind_eq_some_iff.mp text
  obtain ⟨_, _, same⟩ := globals_are_fallback lobby building lobby_onlyReads
  have merged := same 4
  rw [ended, Option.map_some, eq_comm, Option.map_eq_some_iff] at merged
  obtain ⟨second, second_ended, alike⟩ := merged
  exact ⟨run, second, ended, second_ended, rfl, outcome, alike⟩

end Template

end Stencil
