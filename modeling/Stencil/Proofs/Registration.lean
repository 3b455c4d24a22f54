import Stencil.Proofs.ByteOrder
import Stencil.Proofs.Lineage
import Stencil.Registry

/-!
# The history of a registry

A registry is made by calls, some of which fail. A call that fails changes nothing, and one that
succeeds adds a template under an identifier that had none, so a registry only grows
(`Registry.Extends`). What it holds in the end is told by the calls that succeeded
(`Registry.Records`): each of them saw the templates of its dependencies as they are still
registered.
-/

namespace Stencil

theorem Table.mem_names_iff {α : Type} {table : Table α} {name : String} :
    name ∈ table.names ↔ (table.get? name).isSome := by
  constructor
  · intro listed
    obtain ⟨⟨_, value⟩, member, rfl⟩ := List.mem_map.mp listed
    exact Entries.get?_isSome_of_mem member
  · intro found
    obtain ⟨value, found⟩ := Option.isSome_iff_exists.mp found
    exact List.mem_map.mpr ⟨_, mem_of_get? found, rfl⟩

namespace Registry

/-! ## Loading -/

theorem load_eq_ok_iff {registry : Registry} {id : String} {template : Template} :
    registry.load id = .ok template ↔ registry.templates.get? id = some template := by
  unfold load
  cases registry.templates.get? id <;> simp

theorem contains_eq_true_iff {registry : Registry} {id : String} :
    registry.contains id = true ↔ ∃ template, registry.templates.get? id = some template := by
  rw [contains, Table.contains, Option.isSome_iff_exists]

theorem load_of_not_contains {registry : Registry} {id : String}
    (absent : registry.contains id = false) : registry.load id = .error (.templateNotFound id) := by
  rw [contains, Table.contains, Option.isSome_eq_false_iff, Option.isNone_iff_eq_none] at absent
  simp only [load, absent]

theorem loadAll_cons {registry : Registry} {id : String} {template : Template}
    (found : registry.load id = .ok template) (ids : List String) :
    registry.loadAll (id :: ids) = (registry.loadAll ids).map (template :: ·) := by
  rw [loadAll, found]
  cases registry.loadAll ids <;> rfl

/-- Templates are loaded together exactly if each of them is loaded, in the same order. -/
theorem loadAll_eq_ok_iff {registry : Registry} {ids : List String} {templates : List Template} :
    registry.loadAll ids = .ok templates ↔ ids.map registry.load = templates.map .ok := by
  induction ids generalizing templates with
  | nil => cases templates <;> simp [loadAll]
  | cons id ids ih =>
      cases loaded : registry.load id with
      | error error =>
          rw [loadAll, loaded]
          cases templates <;> simp [loaded, bind, Except.bind]
      | ok template =>
          rw [loadAll_cons loaded]
          cases templates with
          | nil => cases registry.loadAll ids <;> simp [Except.map]
          | cons first rest =>
              rw [List.map_cons, List.map_cons, loaded, List.cons.injEq, ← ih, Except.ok.injEq]
              cases registry.loadAll ids <;> simp [Except.map]

/-- The first identifier without a template is the one that is reported. -/
theorem loadAll_of_missing {registry : Registry} {ids : List String} {missing : String}
    (first : ids.find? (fun id => !registry.contains id) = some missing) :
    registry.loadAll ids = .error (.templateNotFound missing) := by
  induction ids with
  | nil => cases first
  | cons id ids ih =>
      cases known : registry.contains id with
      | false =>
          obtain rfl : id = missing := by simpa [known] using first
          rw [loadAll, load_of_not_contains known]
          rfl
      | true =>
          obtain ⟨template, found⟩ := contains_eq_true_iff.mp known
          rw [loadAll_cons (load_eq_ok_iff.mpr found), ih (by simpa [known] using first)]
          rfl

theorem exists_loadAll {registry : Registry} {ids : List String}
    (known : ∀ id ∈ ids, registry.contains id = true) :
    ∃ templates, registry.loadAll ids = .ok templates := by
  induction ids with
  | nil => exact ⟨[], rfl⟩
  | cons id ids ih =>
      obtain ⟨template, found⟩ := contains_eq_true_iff.mp (known id List.mem_cons_self)
      obtain ⟨templates, loaded⟩ :=
        ih fun later member => known later (List.mem_cons_of_mem _ member)
      refine ⟨template :: templates, ?_⟩
      rw [loadAll_cons (load_eq_ok_iff.mpr found), loaded]
      rfl

theorem exists_missing_of_loadAll {registry : Registry} {ids : List String} {error : RenderError}
    (failed : registry.loadAll ids = .error error) :
    ∃ missing, error = .templateNotFound missing := by
  cases first : ids.find? (fun id => !registry.contains id) with
  | some missing => exact ⟨missing, Except.error.inj (failed.symm.trans (loadAll_of_missing first))⟩
  | none =>
      have known : ∀ id ∈ ids, registry.contains id = true := by simpa using first
      obtain ⟨templates, loaded⟩ := exists_loadAll known
      cases failed.symm.trans loaded

/-! ## Growth -/

/-- Everything that is registered in one registry is registered in another. -/
def Extends (registry later : Registry) : Prop :=
  ∀ id template, registry.templates.get? id = some template →
    later.templates.get? id = some template

namespace Extends

theorem refl (registry : Registry) : registry.Extends registry :=
  fun _ _ found => found

theorem trans {first second third : Registry} (left : first.Extends second)
    (right : second.Extends third) : first.Extends third :=
  fun id template found => right id template (left id template found)

theorem load {registry later : Registry} (grown : registry.Extends later) {id : String}
    {template : Template} (loaded : registry.load id = .ok template) :
    later.load id = .ok template :=
  load_eq_ok_iff.mpr (grown id template (load_eq_ok_iff.mp loaded))

theorem loadAll {registry later : Registry} (grown : registry.Extends later) {ids : List String}
    {templates : List Template} (loaded : registry.loadAll ids = .ok templates) :
    later.loadAll ids = .ok templates := by
  rw [loadAll_eq_ok_iff] at loaded ⊢
  rw [← loaded]
  refine List.map_congr_left fun id member => ?_
  have listed : registry.load id ∈ templates.map .ok := loaded ▸ List.mem_map_of_mem member
  obtain ⟨template, _, found⟩ := List.mem_map.mp listed
  rw [← found]
  exact grown.load found.symm

end Extends

/-! ## Calls -/

theorem accept_eq (registry : Registry) (module : Module) :
    registry.accept module =
      if registry.contains module.id then .error (.duplicateTemplate module.id)
      else match registry.loadAll module.dependencies with
        | .error error => .error error
        | .ok received => module.build received := by
  unfold accept
  cases registry.loadAll module.dependencies <;> rfl

/-- A call succeeds under a free identifier, with what its module builds from its dependencies. -/
theorem define_eq_ok_iff {registry next : Registry} {module : Module} :
    registry.define module = .ok next ↔
      registry.contains module.id = false ∧ ∃ received template,
        registry.loadAll module.dependencies = .ok received ∧
          module.build received = .ok template ∧
          next = { templates := registry.templates.insert module.id template } := by
  rw [define, accept_eq]
  cases registry.contains module.id with
  | true => simp [Except.map]
  | false =>
      cases registry.loadAll module.dependencies with
      | error error => simp [Except.map]
      | ok received => cases built : module.build received <;> simp [Except.map, built, eq_comm]

theorem define_extends {registry next : Registry} {module : Module}
    (defined : registry.define module = .ok next) : registry.Extends next := by
  obtain ⟨free, _, _, _, _, rfl⟩ := define_eq_ok_iff.mp defined
  intro id template found
  have different : id ≠ module.id := by
    rintro rfl
    rw [contains_eq_true_iff.mpr ⟨template, found⟩] at free
    cases free
  exact (Table.get?_insert_of_ne different _ _).trans found

/-- A call that succeeded. -/
structure Definition where
  /-- The module that was registered. -/
  module : Module
  /-- The templates that were handed to the module to build its own. -/
  received : List Template
  /-- The template that was built. -/
  template : Template

/-- What a call defines, if it succeeds. -/
def definition? (registry : Registry) (module : Module) : Option Definition :=
  if registry.contains module.id then none
  else match registry.loadAll module.dependencies with
    | .error _ => none
    | .ok received =>
        match module.build received with
        | .error _ => none
        | .ok template => some { module, received, template }

/-- What calls define in order, those that fail left out. -/
def definitions (registry : Registry) : List Module → List Definition
  | [] => []
  | module :: modules =>
      (registry.definition? module).toList ++ (registry.register module).2.definitions modules

theorem registerAll_append (registry : Registry) (calls later : List Module) :
    registry.registerAll (calls ++ later) = (registry.registerAll calls).registerAll later := by
  induction calls generalizing registry with
  | nil => rfl
  | cons module calls ih => exact ih _

theorem register_extends (registry : Registry) (module : Module) :
    registry.Extends (registry.register module).2 := by
  unfold register
  cases defined : registry.define module with
  | ok next => exact define_extends defined
  | error error => exact .refl registry

theorem registerAll_extends (registry : Registry) (calls : List Module) :
    registry.Extends (registry.registerAll calls) := by
  induction calls generalizing registry with
  | nil => exact .refl registry
  | cons module calls ih => exact (registry.register_extends module).trans (ih _)

/-- The ways in which a call can end. Whatever does not succeed leaves the registry as it was. -/
theorem register_cases (registry : Registry) (module : Module) :
    (registry.contains module.id = true ∧
      registry.register module = (.error (.duplicateTemplate module.id), registry) ∧
      registry.definition? module = none) ∨
    registry.contains module.id = false ∧
      ((∃ error, registry.loadAll module.dependencies = .error error ∧
        registry.register module = (.error error, registry) ∧
        registry.definition? module = none) ∨
      ∃ received, registry.loadAll module.dependencies = .ok received ∧
        ((∃ error, module.build received = .error error ∧
          registry.register module = (.error error, registry) ∧
          registry.definition? module = none) ∨
        ∃ template, module.build received = .ok template ∧
          registry.register module =
            (.ok (), { templates := registry.templates.insert module.id template }) ∧
          registry.definition? module = some { module, received, template })) := by
  simp only [register, define, accept_eq, definition?]
  cases taken : registry.contains module.id with
  | true => exact .inl ⟨rfl, rfl, rfl⟩
  | false =>
      refine .inr ⟨rfl, ?_⟩
      cases loaded : registry.loadAll module.dependencies with
      | error error => exact .inl ⟨error, rfl, rfl, rfl⟩
      | ok received =>
          refine .inr ⟨received, rfl, ?_⟩
          cases built : module.build received with
          | error error =>
              exact .inl ⟨error, rfl, by simp [built, Except.map], by simp [built]⟩
          | ok template =>
              exact .inr ⟨template, rfl, by simp [built, Except.map], by simp [built]⟩

/-! ## What calls leave behind -/

/-- A registry holds what some definitions made, each from templates that are still registered. -/
structure Records (registry : Registry) (definitions : List Definition) : Prop where
  entry : ∀ id, registry.templates.get? id =
    (definitions.find? (·.module.id = id)).map Definition.template
  built : ∀ definition ∈ definitions,
    registry.loadAll definition.module.dependencies = .ok definition.received ∧
      definition.module.build definition.received = .ok definition.template

namespace Records

theorem empty : Records {} [] where
  entry _ := rfl
  built _ member := absurd member List.not_mem_nil

/-- A call adds what it defines to the record. -/
theorem register {registry : Registry} {definitions : List Definition}
    (records : registry.Records definitions) (module : Module) :
    (registry.register module).2.Records
      (definitions ++ (registry.definition? module).toList) := by
  rcases registry.register_cases module with ⟨_, answer, fails⟩ | ⟨free, ⟨_, _, answer, fails⟩ |
    ⟨received, loaded, ⟨_, _, answer, fails⟩ | ⟨template, made, answer, succeeds⟩⟩⟩
  · simpa [answer, fails] using records
  · simpa [answer, fails] using records
  · simpa [answer, fails] using records
  · have grown := registry.register_extends module
    rw [answer] at grown
    rw [answer, succeeds, Option.toList_some]
    refine ⟨fun id => ?_, fun definition member => ?_⟩
    · rw [List.find?_append, Option.map_or, ← records.entry]
      by_cases same : id = module.id
      · subst same
        have absent : registry.templates.get? module.id = none := by
          simpa [contains, Table.contains] using free
        simp [absent]
      · rw [Table.get?_insert_of_ne same]
        simp [Ne.symm same]
    · rcases List.mem_append.mp member with old | new
      · exact ⟨grown.loadAll (records.built definition old).1, (records.built definition old).2⟩
      · obtain rfl := List.mem_singleton.mp new
        exact ⟨grown.loadAll loaded, made⟩

/-- So do calls in a row. -/
theorem registerAll {registry : Registry} {before : List Definition}
    (records : registry.Records before) (calls : List Module) :
    (registry.registerAll calls).Records (before ++ registry.definitions calls) := by
  induction calls generalizing registry before with
  | nil => simpa [Registry.registerAll, definitions] using records
  | cons module calls ih =>
      have rest := ih (records.register module)
      rwa [List.append_assoc] at rest

theorem mem_ids_iff {registry : Registry} {definitions : List Definition}
    (records : registry.Records definitions) (id : String) :
    id ∈ registry.ids ↔ ∃ definition ∈ definitions, definition.module.id = id := by
  rw [ids, Table.mem_names_iff, records.entry]
  simp

end Records

/--
How a call that registers a module is answered. The first of three conditions decides: the
identifier is taken, a dependency is not registered, the module cannot be built. Whether the module
can be built is asked only if it comes to that, about the templates of its dependencies; before,
the answer is the same whatever the module builds.
-/
structure Answers (registry : Registry) (module : Module) : Prop where
  /-- The identifier is taken. -/
  taken : registry.contains module.id = true → ∀ build,
    registry.register { module with build } =
      (.error (.duplicateTemplate module.id), registry)
  /-- The identifier is free, but some dependency is not registered; the first is reported. -/
  missing : registry.contains module.id = false → ∀ missing,
    module.dependencies.find? (fun id => !registry.contains id) = some missing → ∀ build,
      registry.register { module with build } = (.error (.templateNotFound missing), registry)
  /-- The identifier is free and all dependencies are registered. -/
  built : registry.contains module.id = false →
    (∀ id ∈ module.dependencies, registry.contains id = true) →
    ∃ received, module.dependencies.map registry.load = received.map .ok ∧
      (∀ error, module.build received = .error error →
        registry.register module = (.error error, registry)) ∧
      ∀ template, module.build received = .ok template →
        registry.register module =
          (.ok (), { templates := registry.templates.insert module.id template })
  /-- A duplicate is reported of a taken identifier only, unless the module itself reports it. -/
  duplicate_iff :
    (registry.register module).1 = .error (.duplicateTemplate module.id) ↔
      registry.contains module.id = true ∨
        registry.contains module.id = false ∧ ∃ received,
          module.dependencies.map registry.load = received.map .ok ∧
            module.build received = .error (.duplicateTemplate module.id)

theorem answers (registry : Registry) (module : Module) : registry.Answers module where
  taken taken build := by
    rcases registry.register_cases { module with build } with ⟨_, answer, _⟩ | ⟨free, _⟩
    · exact answer
    · exact absurd (taken.symm.trans free) Bool.noConfusion
  missing free missing first build := by
    have unloaded := loadAll_of_missing first
    rcases registry.register_cases { module with build } with ⟨taken, _⟩ |
      ⟨_, ⟨error, failed, answer, _⟩ | ⟨_, loaded, _⟩⟩
    · exact absurd (taken.symm.trans free) Bool.noConfusion
    · cases failed.symm.trans unloaded
      exact answer
    · cases loaded.symm.trans unloaded
  built free known := by
    obtain ⟨received, loaded⟩ := exists_loadAll known
    refine ⟨received, loadAll_eq_ok_iff.mp loaded, fun error fails => ?_, fun template made => ?_⟩
    · simp only [register, define, accept_eq, free, loaded, fails, Except.map]
      rfl
    · simp only [register, define, accept_eq, free, loaded, made, Except.map]
      rfl
  duplicate_iff := by
    simp only [← loadAll_eq_ok_iff]
    rcases registry.register_cases module with ⟨taken, answer, _⟩ |
      ⟨free, ⟨error, failed, answer, _⟩ |
        ⟨received, loaded, ⟨error, fails, answer, _⟩ | ⟨template, made, answer, _⟩⟩⟩
    · simp [answer, taken]
    · obtain ⟨missing, rfl⟩ := exists_missing_of_loadAll failed
      simp [answer, free, failed]
    · simp [answer, free, loaded, fails]
    · simp [answer, free, loaded, made]

/--
What any calls make of an empty registry. The next call is answered by the first condition that
applies, and one that fails changes nothing. An identifier means the template of its first
successful definition, now and after any further calls, or nothing at all; the identifiers are
listed in byte order, and they are those that were defined. What a module was built from is what
its dependencies still mean.
-/
theorem history_decides_registry (calls : List Module) :
    (∀ module, (registerAll {} calls).Answers module) ∧
    (∀ id, (registerAll {} calls).load id =
      match (definitions {} calls).find? (·.module.id = id) with
      | some definition => .ok definition.template
      | none => .error (.templateNotFound id)) ∧
    (∀ id template later, (registerAll {} calls).load id = .ok template →
      (registerAll {} (calls ++ later)).load id = .ok template) ∧
    (registerAll {} calls).ids.Pairwise (fun first second => Text.utf8 first < Text.utf8 second) ∧
    (∀ id, ((registerAll {} calls).contains id = true ↔ id ∈ (registerAll {} calls).ids) ∧
      (id ∈ (registerAll {} calls).ids ↔
        ∃ definition ∈ definitions {} calls, definition.module.id = id)) ∧
    ∀ definition ∈ definitions {} calls,
      definition.module.build definition.received = .ok definition.template ∧
      ∀ later, definition.module.dependencies.map (registerAll {} (calls ++ later)).load =
        definition.received.map .ok := by
  have records : (registerAll {} calls).Records (definitions {} calls) :=
    Records.empty.registerAll calls
  have grown : ∀ later, (registerAll {} calls).Extends (registerAll {} (calls ++ later)) := by
    intro later
    rw [registerAll_append]
    exact registerAll_extends _ later
  refine ⟨fun module => answers _ module, fun id => ?_, fun id template later loaded => ?_,
    Table.names_utf8 _, fun id => ⟨Table.mem_names_iff.symm, records.mem_ids_iff id⟩,
    fun definition member => ?_⟩
  · rw [load, records.entry]
    cases (definitions {} calls).find? (·.module.id = id) <;> rfl
  · exact (grown later).load loaded
  · obtain ⟨loaded, made⟩ := records.built definition member
    exact ⟨made, fun later => loadAll_eq_ok_iff.mp ((grown later).loadAll loaded)⟩

end Registry

end Stencil
