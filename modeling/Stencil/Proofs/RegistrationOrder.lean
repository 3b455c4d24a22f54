import Stencil.Builtin
import Stencil.Proofs.Registration

/-!
# The order of registration

A template keeps the templates that it was built from, so what a module builds depends on what was
registered before it. Still the order in which modules are registered does not matter, as long as
every one of them can be registered.

The reason is a property of the registry in the end that knows no order: it holds, for every
module, what the module builds from the templates registered for its dependencies
(`Registry.Settles`). Along any order of registration each template is determined by this property
and by the templates before it, so a registry that settles the modules contains all of them
(`Registry.defineAll_extends_of_settles`).
-/

namespace Stencil

namespace Table

variable {α : Type}

theorem pairwise (table : Table α) :
    table.entries.Pairwise fun first second => first.1 < second.1 :=
  List.pairwise_map.mp table.ascending

theorem nodup (table : Table α) : table.entries.Nodup := by
  refine table.pairwise.imp fun before same => ?_
  exact String.lt_irrefl _ (same ▸ before)

/-- A table is determined by what is found in it. -/
theorem ext_get? {table other : Table α} (same : ∀ name, table.get? name = other.get? name) :
    table = other := by
  have members : ∀ entry, entry ∈ table.entries ↔ entry ∈ other.entries := fun (name, value) =>
    ⟨fun member => mem_of_get? (same name ▸ get?_of_mem member),
      fun member => mem_of_get? (same name ▸ get?_of_mem member)⟩
  have perm := (List.perm_ext_iff_of_nodup table.nodup other.nodup).mpr members
  refine Table.ext (perm.eq_of_pairwise (fun first second _ _ before behind => ?_) table.pairwise
    other.pairwise)
  exact absurd behind (String.lt_asymm before)

end Table

namespace Registry

theorem defineAll_cons_eq_ok_iff {registry final : Registry} {module : Module}
    {modules : List Module} :
    registry.defineAll (module :: modules) = .ok final ↔
      ∃ next, registry.define module = .ok next ∧ next.defineAll modules = .ok final := by
  rw [defineAll]
  cases registry.define module <;> simp [bind, Except.bind]

theorem defineAll_extends {registry final : Registry} {modules : List Module}
    (defined : registry.defineAll modules = .ok final) : registry.Extends final := by
  induction modules generalizing registry with
  | nil =>
      cases defined
      exact .refl _
  | cons module modules ih =>
      obtain ⟨next, first, rest⟩ := defineAll_cons_eq_ok_iff.mp defined
      exact (define_extends first).trans (ih rest)

/-- A registry holds what a module builds from the templates it holds for its dependencies. -/
def Settles (registry : Registry) (module : Module) : Prop :=
  ∃ received template, registry.loadAll module.dependencies = .ok received ∧
    module.build received = .ok template ∧ registry.templates.get? module.id = some template

theorem Settles.mono {registry later : Registry} {module : Module}
    (settles : registry.Settles module) (grown : registry.Extends later) :
    later.Settles module := by
  obtain ⟨received, template, loaded, built, found⟩ := settles
  exact ⟨received, template, grown.loadAll loaded, built, grown _ _ found⟩

theorem define_settles {registry next : Registry} {module : Module}
    (defined : registry.define module = .ok next) : next.Settles module := by
  have grown := define_extends defined
  obtain ⟨_, received, template, loaded, built, rfl⟩ := define_eq_ok_iff.mp defined
  exact ⟨received, template, grown.loadAll loaded, built, Table.get?_insert_self _ _ _⟩

theorem defineAll_settles {registry final : Registry} {modules : List Module}
    (defined : registry.defineAll modules = .ok final) {module : Module}
    (member : module ∈ modules) : final.Settles module := by
  induction modules generalizing registry with
  | nil => cases member
  | cons first modules ih =>
      obtain ⟨next, begun, rest⟩ := defineAll_cons_eq_ok_iff.mp defined
      rcases List.mem_cons.mp member with rfl | later
      · exact (define_settles begun).mono (defineAll_extends rest)
      · exact ih rest later

/-- One more module keeps a registry inside of another one that settles the module. -/
theorem define_extends_of_settles {registry next other : Registry} {module : Module}
    (inside : registry.Extends other) (settles : other.Settles module)
    (defined : registry.define module = .ok next) : next.Extends other := by
  obtain ⟨_, received, template, loaded, built, rfl⟩ := define_eq_ok_iff.mp defined
  obtain ⟨received', template', loaded', built', found⟩ := settles
  -- Both registries hand the same templates to the module, so they hold the same for it.
  obtain rfl : received = received' := Except.ok.inj ((inside.loadAll loaded).symm.trans loaded')
  obtain rfl : template = template' := Except.ok.inj (built.symm.trans built')
  intro id entry registered
  by_cases same : id = module.id
  · subst same
    rw [Table.get?_insert_self] at registered
    exact registered ▸ found
  · rw [Table.get?_insert_of_ne same] at registered
    exact inside id entry registered

/-- A registry that settles modules contains what any registration of them defines. -/
theorem defineAll_extends_of_settles {registry final other : Registry} {modules : List Module}
    (inside : registry.Extends other) (settles : ∀ module ∈ modules, other.Settles module)
    (defined : registry.defineAll modules = .ok final) : final.Extends other := by
  induction modules generalizing registry with
  | nil =>
      cases defined
      exact inside
  | cons module modules ih =>
      obtain ⟨next, first, rest⟩ := defineAll_cons_eq_ok_iff.mp defined
      have extended :=
        define_extends_of_settles inside (settles module List.mem_cons_self) first
      exact ih extended (fun later member => settles later (List.mem_cons_of_mem _ member)) rest

theorem empty_extends (registry : Registry) : Extends {} registry :=
  fun _ _ found => nomatch found

theorem Extends.antisymm {registry other : Registry} (forth : registry.Extends other)
    (back : other.Extends registry) : registry = other := by
  have same : ∀ id, registry.templates.get? id = other.templates.get? id := by
    intro id
    cases found : other.templates.get? id with
    | some template => exact back id template found
    | none =>
        cases also : registry.templates.get? id with
        | none => rfl
        | some template => exact (forth id template also).symm.trans found
  cases registry
  cases other
  congr 1
  exact Table.ext_get? same

/--
Modules that can be registered in two orders give the same registry in both: the same identifiers,
and under each of them the same template with everything that it holds, which renders alike in
every scope.
-/
theorem registration_order_irrelevant {modules others : List Module} (perm : modules.Perm others)
    {registry other : Registry} (defined : defineAll {} modules = .ok registry)
    (others_defined : defineAll {} others = .ok other) :
    registry.ids = other.ids ∧ (∀ id, registry.load id = other.load id) ∧
      ∀ id template template', registry.load id = .ok template → other.load id = .ok template' →
        template = template' ∧ ∀ scope depth,
          (template.bind scope).render depth = (template'.bind scope).render depth := by
  have forth : registry.Extends other :=
    defineAll_extends_of_settles (empty_extends other)
      (fun module member => defineAll_settles others_defined (perm.mem_iff.mp member)) defined
  have back : other.Extends registry :=
    defineAll_extends_of_settles (empty_extends registry)
      (fun module member => defineAll_settles defined (perm.mem_iff.mpr member)) others_defined
  obtain rfl := forth.antisymm back
  refine ⟨rfl, fun _ => rfl, fun id template template' loaded loaded' => ?_⟩
  obtain rfl : template = template' := Except.ok.inj (loaded.symm.trans loaded')
  exact ⟨rfl, fun _ _ => rfl⟩

end Registry

open Registry in
/-- The builtin templates may be registered in another order, if only the article stays last. -/
theorem Builtin.modules_reversed_order_irrelevant :
    ∃ registry other,
      defineAll {} Builtin.modules = .ok registry ∧
      defineAll {} ((Builtin.modules.take 4).reverse ++ Builtin.modules.drop 4) = .ok other ∧
      registry.ids = other.ids ∧ ∀ id, registry.load id = other.load id := by
  have perm : Builtin.modules.Perm
      ((Builtin.modules.take 4).reverse ++ Builtin.modules.drop 4) := by
    conv => lhs; rw [← List.take_append_drop 4 Builtin.modules]
    exact (List.reverse_perm _).symm.append_right _
  have succeeds : (defineAll {} Builtin.modules).isOk = true := by decide +kernel
  have others_succeed : (defineAll {} ((Builtin.modules.take 4).reverse ++
      Builtin.modules.drop 4)).isOk = true := by decide +kernel
  cases defined : defineAll {} Builtin.modules with
  | error error =>
      rw [defined] at succeeds
      cases succeeds
  | ok registry =>
      cases others_defined :
          defineAll {} ((Builtin.modules.take 4).reverse ++ Builtin.modules.drop 4) with
      | error error =>
          rw [others_defined] at others_succeed
          cases others_succeed
      | ok other =>
          obtain ⟨ids, loads, _⟩ :=
            Registry.registration_order_irrelevant perm defined others_defined
          exact ⟨registry, other, rfl, rfl, ids, loads⟩

end Stencil
