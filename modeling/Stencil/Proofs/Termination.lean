import Stencil.Proofs.Composition
import Stencil.Proofs.Importing
import Stencil.Proofs.Registration
import Stencil.Proofs.Writing

/-!
# Renders without calls come to an end

A body that makes no calls leaves its def in two ways only: it includes a template, or it calls a
def that it imports from one. Both lead to a def of a template that the body depends on, as nothing
that its caller has bound already is called through an import. A template depends on templates that
were registered before it. So the defs of a registry with `n` templates end within depth `n`
(`Registry.Settled`), and every registration keeps this.

The depth belongs to the def and not to the template that is rendered: an inherited entry point
needs no more than the template that it was written for.
-/

namespace Stencil

/-- Whether a part calls a def that is bound in the scope. -/
def Part.isCall : Part → Bool
  | .expr (.call _ _) => true
  | _ => false

namespace Rendering

/-- A step that ends wherever it is taken, with a result or an error. -/
def Ends (α : Type) (step : Rendering α) : Prop :=
  ∀ progress, ∃ ended, step progress = some ended

theorem ends_compositional : Compositional Ends where
  pure _ := fun _ => ⟨_, rfl⟩
  fail _ := fun _ => ⟨_, rfl⟩
  scope := fun _ => ⟨_, rfl⟩
  note _ := fun _ => ⟨_, rfl⟩
  modifyPage _ := fun _ => ⟨_, rfl⟩
  bind first_ends nexts_end := by
    intro progress
    obtain ⟨⟨result, middle⟩, begun⟩ := first_ends progress
    rw [bind_apply, begun]
    cases result with
    | error error => exact ⟨_, rfl⟩
    | ok value => exact nexts_end value middle
  collect step_ends := by
    intro progress
    obtain ⟨ended, begun⟩ := step_ends { progress with page := {} }
    simp only [collect, begun]
    exact ⟨_, rfl⟩

theorem inScope_ends {α : Type} {other : Scope} {step : Rendering α}
    (step_ends : ∀ progress, progress.scope = other → ∃ ended, step progress = some ended) :
    Ends α (inScope other step) := by
  intro progress
  obtain ⟨ended, begun⟩ := step_ends { progress with scope := other } rfl
  simp only [inScope, begun]
  exact ⟨_, rfl⟩

end Rendering

open Rendering

/-- A def that ends within a depth, whatever it is called with and wherever it runs. -/
def Def.EndsWithin (depth : Nat) (definition : Def) : Prop :=
  ∀ arguments, Ends Buffer (Def.invoke depth definition arguments)

theorem Def.EndsWithin.mono {depth greater : Nat} {definition : Def}
    (ends : definition.EndsWithin depth) (le : depth ≤ greater) :
    definition.EndsWithin greater := by
  intro arguments progress
  obtain ⟨ended, ran⟩ := ends arguments progress
  rcases Def.invoke_refines le definition arguments progress with unended | same
  · rw [unended] at ran
    cases ran
  · exact ⟨ended, same.symm.trans ran⟩

/-! ## Templates whose defs end -/

section

variable {template : Template} {depth : Nat}

/-- In a scope without other defs, a template is entered through a def that it offers. -/
theorem Template.runMain_ends (offered : template.Within (Def.EndsWithin depth))
    (vars globals : Table Json) (policy : Policy) (progress : Progress)
    (bound : progress.scope = template.bindInto { vars, globals, policy }) :
    ∃ ended, runMain (Def.invoke depth) template.id progress = some ended := by
  have within := (Scope.within_of_no_defs _ vars globals policy).bindInto offered
  obtain ⟨main, found⟩ := template.exists_main_bindInto { vars, globals, policy }
  have entered : Ends Buffer
      (note [.rendering template.id] >>= fun _ => Def.invoke depth main []) :=
    ends_compositional.bind (ends_compositional.note _) fun _ => within.def? found []
  simp only [runMain, bind_apply, scope_apply, bound, found]
  exact entered progress

theorem Template.exists_render (offered : template.Within (Def.EndsWithin depth))
    (vars globals : Table Json) (policy : Policy) :
    ∃ run, (template.bind { vars, globals, policy }).render depth = some run := by
  obtain ⟨ended, ran⟩ := template.runMain_ends offered vars globals policy
    { scope := template.bindInto { vars, globals, policy } } rfl
  exact ⟨_, (Bound.render_eq _ _).trans (congrArg _ ran)⟩

theorem Rendering.includeTemplate_ends (offered : template.Within (Def.EndsWithin depth))
    (vars : Table Json) : Ends Buffer (includeTemplate (Def.invoke depth) template vars) := by
  apply ends_compositional.includeTemplate
  intro globals policy
  exact inScope_ends (template.runMain_ends offered vars globals policy)

/-- An import calls a def that the template offers, although the caller's defs are bound, too. -/
theorem Rendering.importCall_ends (offered : template.Within (Def.EndsWithin depth))
    (name : String) (arguments : List Json) :
    Ends Buffer (importCall (Def.invoke depth) template name arguments) := by
  apply ends_compositional.importCall
  intro caller exported
  obtain ⟨definition, first, found⟩ := Template.def?_of_exported exported
  have of_template : definition ∈ template.offeredDefs := by
    have member := List.mem_of_find?_eq_some first
    exact List.mem_map.mpr ⟨_, List.mem_append_left _ member, rfl⟩
  apply inScope_ends
  intro progress bound
  simp only [callDef, bind_apply, scope_apply, bound, found]
  exact offered definition of_template arguments progress

/-- A def without calls ends one level above the templates that it depends on. -/
theorem Def.endsWithin_succ {definition : Def} (callless : definition.isFreeOf Part.isCall = true)
    (offered : ∀ template ∈ definition.dependencies, template.Within (Def.EndsWithin depth)) :
    definition.EndsWithin (depth + 1) := by
  have free := Def.isFreeOf_iff.mp callless
  intro arguments
  apply Def.invoke_holds ends_compositional
  intro part member
  have not_call := free part member
  unfold Part.Admits
  split
  · exact fun _ _ => ⟨_, rfl⟩
  · cases not_call
  · exact fun template used => includeTemplate_ends (offered template used)
  · exact fun template used => importCall_ends (offered template used) _
  · trivial

end

/-! ## Templates built from others -/

/--
The templates that can be built from those handed over. Their bodies use what was handed over, and
nothing else; ancestors that have been registered bring bodies of their own.
-/
inductive Template.MadeFrom (received : List Template) : Template → Prop
  /-- A template that was handed over. -/
  | received {template : Template} : template ∈ received → MadeFrom received template
  /-- A template with an entry point of its own. -/
  | root {id : String} {main : Def} {defs : List (String × Def)} :
      main.dependencies ⊆ received → (∀ entry ∈ defs, entry.2.dependencies ⊆ received) →
      MadeFrom received (.root id main defs)
  /-- A template that extends another. -/
  | extending {id : String} {parent : Template} {defs : List (String × Def)} :
      MadeFrom received parent → (∀ entry ∈ defs, entry.2.dependencies ⊆ received) →
      MadeFrom received (.extending id parent defs)
  /-- A template with one more def. -/
  | withDef {template : Template} {name : String} {definition : Def} :
      MadeFrom received template → definition.dependencies ⊆ received →
      MadeFrom received (template.withDef name definition)

namespace Template

theorem mem_offeredDefs_root {id : String} {main definition : Def} {defs : List (String × Def)} :
    definition ∈ (Template.root id main defs).offeredDefs ↔
      definition ∈ defs.map Prod.snd ∨ definition = main := by
  simp [offeredDefs, offers, entryPoint]

theorem mem_offeredDefs_extending {id : String} {parent : Template} {definition : Def}
    {defs : List (String × Def)} :
    definition ∈ (Template.extending id parent defs).offeredDefs ↔
      definition ∈ defs.map Prod.snd ∨ definition ∈ parent.offeredDefs := by
  simp [offeredDefs, offers, entryPoint]

theorem mem_offeredDefs_withDef {template : Template} {name : String} {added definition : Def} :
    definition ∈ (template.withDef name added).offeredDefs ↔
      definition = added ∨ definition ∈ template.offeredDefs := by
  cases template with
  | root id main defs =>
      simp only [withDef, mem_offeredDefs_root, List.map_append, List.mem_append]
      simp [or_comm, or_left_comm]
  | extending id parent defs =>
      simp only [withDef, mem_offeredDefs_extending, List.map_append, List.mem_append]
      simp [or_comm, or_left_comm]

/-- Every body of a template was written for it, or comes from a template that was handed over. -/
theorem MadeFrom.offered {received : List Template} {template : Template}
    (made : template.MadeFrom received) {definition : Def}
    (offered : definition ∈ template.offeredDefs) :
    definition.dependencies ⊆ received ∨
      ∃ earlier ∈ received, definition ∈ earlier.offeredDefs := by
  induction made with
  | received member => exact .inr ⟨_, member, offered⟩
  | root main_uses defs_use =>
      rcases mem_offeredDefs_root.mp offered with own | rfl
      · obtain ⟨entry, member, rfl⟩ := List.mem_map.mp own
        exact .inl (defs_use entry member)
      · exact .inl main_uses
  | extending _ defs_use ih =>
      rcases mem_offeredDefs_extending.mp offered with own | inherited
      · obtain ⟨entry, member, rfl⟩ := List.mem_map.mp own
        exact .inl (defs_use entry member)
      · exact ih inherited
  | withDef _ uses ih =>
      rcases mem_offeredDefs_withDef.mp offered with rfl | old
      · exact .inl uses
      · exact ih old

/-- A template without calls ends one level above what it was made from. -/
theorem MadeFrom.endsWithin_succ {received : List Template} {template : Template}
    (made : template.MadeFrom received)
    (callless : template.Within fun definition => definition.isFreeOf Part.isCall = true)
    {depth : Nat} (earlier_end : ∀ earlier ∈ received, earlier.Within (Def.EndsWithin depth)) :
    template.Within (Def.EndsWithin (depth + 1)) := by
  intro definition offered
  rcases made.offered offered with uses | ⟨earlier, member, inherited⟩
  · apply Def.endsWithin_succ (callless definition offered)
    exact fun template used => earlier_end template (uses used)
  · exact (earlier_end earlier member definition inherited).mono (Nat.le_succ depth)

end Template

/-! ## Registrations -/

theorem Entries.length_insert_of_absent {α : Type} {entries : Entries α} {name : String}
    (absent : entries.get? name = none) (value : α) :
    (entries.insert name value).length = entries.length + 1 := by
  induction entries with
  | nil => rfl
  | cons entry rest ih =>
      obtain ⟨key, old⟩ := entry
      have different : name ≠ key := fun same => by simp [same] at absent
      rw [get?_cons, if_neg different] at absent
      simp only [insert, if_neg different]
      split
      · rfl
      · simp [ih absent]

namespace Registry

/-- The defs of a registry end within a depth that counts its templates. -/
def Settled (registry : Registry) : Prop :=
  ∀ id template, registry.load id = .ok template →
    template.Within (Def.EndsWithin registry.ids.length)

/-- A definition keeps to what it was given, and its bodies make no calls. -/
structure Definition.Callless (definition : Definition) : Prop where
  made : definition.template.MadeFrom definition.received
  free : definition.template.Within fun body => body.isFreeOf Part.isCall = true

theorem mem_received_loads {registry : Registry} {ids : List String} {received : List Template}
    (loaded : registry.loadAll ids = .ok received) {template : Template}
    (member : template ∈ received) : ∃ id, registry.load id = .ok template := by
  have listed : Except.ok template ∈ ids.map registry.load := by
    rw [loadAll_eq_ok_iff.mp loaded]
    exact List.mem_map_of_mem member
  obtain ⟨id, _, found⟩ := List.mem_map.mp listed
  exact ⟨id, found⟩

/-- A template that is registered ends one level above all that was there before. -/
theorem Settled.register {registry : Registry} (settled : registry.Settled) {module : Module}
    (callless : ∀ definition ∈ registry.definition? module, definition.Callless) :
    (registry.register module).2.Settled := by
  rcases registry.register_cases module with ⟨_, answer, _⟩ | ⟨free, ⟨_, _, answer, _⟩ |
    ⟨received, loaded, ⟨_, _, answer, _⟩ | ⟨template, _, answer, succeeds⟩⟩⟩
  · rwa [answer]
  · rwa [answer]
  · rwa [answer]
  · have absent : registry.templates.get? module.id = none := by
      simpa [contains, Table.contains] using free
    have grown : (registry.register module).2.ids.length = registry.ids.length + 1 := by
      simpa [answer, ids, Table.names, Entries.names, Table.insert] using
        Entries.length_insert_of_absent absent template
    have new := callless _ (by rw [succeeds]; rfl)
    intro id found loads
    rw [grown]
    rw [answer, load_eq_ok_iff] at loads
    by_cases same : id = module.id
    · obtain rfl : template = found := by simpa [same] using loads
      apply new.made.endsWithin_succ new.free
      intro earlier member
      obtain ⟨earlier_id, earlier_loads⟩ := mem_received_loads loaded member
      exact settled earlier_id earlier earlier_loads
    · rw [Table.get?_insert_of_ne same] at loads
      intro definition offered
      have ends := settled id found (load_eq_ok_iff.mpr loads) definition offered
      exact ends.mono (Nat.le_succ _)

theorem Settled.registerAll {registry : Registry} (settled : registry.Settled)
    {calls : List Module}
    (callless : ∀ definition ∈ registry.definitions calls, definition.Callless) :
    (registry.registerAll calls).Settled := by
  induction calls generalizing registry with
  | nil => exact settled
  | cons module calls ih =>
      obtain ⟨first, others⟩ := List.forall_mem_append.mp callless
      exact ih (settled.register fun definition defined =>
        first definition (Option.mem_toList.mpr defined)) others

/-- What was defined was built by the module of one of the calls. -/
theorem mem_definitions {registry : Registry} {calls : List Module} {definition : Definition}
    (member : definition ∈ registry.definitions calls) :
    definition.module ∈ calls ∧
      definition.module.build definition.received = .ok definition.template := by
  induction calls generalizing registry with
  | nil => cases member
  | cons module calls ih =>
      rcases List.mem_append.mp member with first | later
      · rw [Option.mem_toList] at first
        rcases registry.register_cases module with ⟨_, _, fails⟩ | ⟨_, ⟨_, _, _, fails⟩ |
          ⟨received, _, ⟨_, _, _, fails⟩ | ⟨template, built, _, succeeds⟩⟩⟩
        · cases fails ▸ first
        · cases fails ▸ first
        · cases fails ▸ first
        · obtain rfl := Option.some.inj (succeeds.symm.trans first)
          exact ⟨List.mem_cons_self, built⟩
      · obtain ⟨listed, built⟩ := ih later
        exact ⟨List.mem_cons_of_mem _ listed, built⟩

/--
Without calls, rendering ends. However a registry came about, if every body uses only templates that
its module was handed, and calls no def that is bound in its scope, then every template in it
renders to a text or an error, over any variables, globals and policy; calls that are nested as
deeply as there are templates suffice.
-/
theorem callless_renders_end (calls : List Module)
    (made : ∀ definition ∈ definitions {} calls,
      definition.template.MadeFrom definition.received)
    (callless : ∀ definition ∈ definitions {} calls,
      definition.template.Within fun body => body.isFreeOf Part.isCall = true)
    {id : String} {template : Template} (loaded : (registerAll {} calls).load id = .ok template)
    (vars globals : Table Json) (policy : Policy) :
    ∃ run, ∀ depth, (registerAll {} calls).ids.length ≤ depth →
      (template.bind { vars, globals, policy }).render depth = some run := by
  have empty : Settled {} := fun _ _ loads => nomatch loads
  have settled : (registerAll {} calls).Settled :=
    empty.registerAll fun definition defined =>
      ⟨made definition defined, callless definition defined⟩
  obtain ⟨run, ended⟩ := template.exists_render (settled id template loaded) vars globals policy
  exact ⟨run, fun depth enough => Bound.render_of_le enough ended⟩

/-- A seal, a letter that is sealed for each guest, a dated letter, and a parcel with all of it. -/
def stationery : List Module := [
  { id := "seal"
    build := fun _ => .ok (.root "seal" (.mk [.text "*"] []) [
      ("ring", .mk [.text "(", .writeArguments, .text ")"] [])]) },
  { id := "letter"
    dependencies := ["seal"]
    build := fun received => .ok (.root "letter" (.mk [
      .forEach (.lookup "guests") { text := "guests" } [.write [.importCall 0 "ring" [.item]]],
      .write [.buffer [.write [.includeTemplate 0 []]]]] received) []) },
  { id := "invitation"
    dependencies := ["letter", "seal"]
    build := fun received => match received with
      | letter :: others => .ok (.extending "invitation" letter [
          ("date", .mk [.write [.importCall 0 "ring" [.argument 0]]] others)])
      | [] => .error (.templateNotFound "letter") },
  { id := "parcel"
    dependencies := ["invitation"]
    build := fun received => .ok (.root "parcel" (.mk [
      .write [.includeTemplate 0 [("guests", .lookup "guests")]],
      .write [.importCall 0 "date" [.text "May"]]] received) []) }]

theorem stationery_made (module : Module) (listed : module ∈ stationery)
    {received : List Template} {template : Template}
    (built : module.build received = .ok template) : template.MadeFrom received := by
  simp only [stationery, List.mem_cons, List.not_mem_nil, or_false] at listed
  rcases listed with rfl | rfl | rfl | rfl
  · cases built
    exact .root (by simp [Def.dependencies]) (by simp [Def.dependencies])
  · cases built
    exact .root (by simp [Def.dependencies]) (by simp)
  · match received, built with
    | letter :: others, rfl =>
        exact .extending (.received List.mem_cons_self) (by simp [Def.dependencies])
  · cases built
    exact .root (by simp [Def.dependencies]) (by simp)

/-- The parcel is rendered within four levels, with a text. -/
theorem stationery_renders_end :
    ∃ template run, (registerAll {} stationery).load "parcel" = .ok template ∧
      run.outcome.toOption = some "(Ada)(Bob)*(May)" ∧ ∀ depth, 4 ≤ depth →
        (template.bind
          { vars := .ofList [("guests", .array [.string "Ada", .string "Bob"])] }).render depth =
            some run := by
  have callless : (definitions {} stationery).all (fun definition =>
      definition.template.offeredDefs.all (·.isFreeOf Part.isCall)) = true := by
    decide +kernel
  have text : ((registerAll {} stationery).load "parcel").toOption.bind (fun template =>
      ((template.bind
        { vars := .ofList [("guests", .array [.string "Ada", .string "Bob"])] }).render 4).bind
          fun run => run.outcome.toOption) = some "(Ada)(Bob)*(May)" := by
    decide +kernel
  obtain ⟨template, loads, text⟩ := Option.bind_eq_some_iff.mp text
  obtain ⟨first, ended, outcome⟩ := Option.bind_eq_some_iff.mp text
  have loaded : (registerAll {} stationery).load "parcel" = .ok template := by
    cases found : (registerAll {} stationery).load "parcel" with
    | error _ => simp [found, Except.toOption] at loads
    | ok _ => simpa [found, Except.toOption] using loads
  have made : ∀ definition ∈ definitions {} stationery,
      definition.template.MadeFrom definition.received := by
    intro definition member
    obtain ⟨listed, built⟩ := mem_definitions member
    exact stationery_made _ listed built
  obtain ⟨run, ends⟩ := callless_renders_end stationery made
    (fun definition member body offered =>
      List.all_eq_true.mp (List.all_eq_true.mp callless definition member) body offered)
    loaded (.ofList [("guests", .array [.string "Ada", .string "Bob"])]) ∅ .lenient
  have size : (registerAll {} stationery).ids.length = 4 := by decide +kernel
  rw [size] at ends
  obtain rfl := Option.some.inj ((ends 4 (Nat.le_refl 4)).symm.trans ended)
  exact ⟨template, run, loaded, outcome, ends⟩

end Registry

end Stencil
