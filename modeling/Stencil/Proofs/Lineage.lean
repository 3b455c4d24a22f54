import Stencil.Bound

/-!
# Resolution through ancestors

A template is bound together with its ancestors. This file puts everything that binding offers into
one list, `Template.offers`: the defs of the template, those of its parent, and so on up to the
root, and the entry point of the root behind all of them. Binding is adding this list to a scope
(`Template.bindInto_eq_addDefs`), and a name that is added twice keeps its first def
(`Scope.def?_addDefs`). So a name means what the scope says, or else the first offer of that name.
-/

namespace Stencil

namespace Entries

variable {α : Type}

/-- A lookup finds the first entry of a name. -/
theorem get?_eq_find? (name : String) (entries : Entries α) :
    entries.get? name = (entries.find? (·.1 = name)).map Prod.snd := by
  induction entries with
  | nil => rfl
  | cons entry rest ih =>
      obtain ⟨key, value⟩ := entry
      by_cases same : name = key
      · simp [same]
      · simp [same, Ne.symm same, ih]

theorem get?_append (name : String) (first second : Entries α) :
    get? name (first ++ second) = (first.get? name <|> second.get? name) := by
  induction first with
  | nil => rfl
  | cons entry rest ih =>
      obtain ⟨key, value⟩ := entry
      by_cases same : name = key
      · simp [same]
      · simpa [same] using ih

theorem get?_isSome_of_mem {name : String} {value : α} {entries : Entries α}
    (member : (name, value) ∈ entries) : (entries.get? name).isSome := by
  rw [get?_eq_find?, Option.isSome_map, List.find?_isSome]
  exact ⟨_, member, by simp⟩

theorem mem_of_get? {name : String} {value : α} {entries : Entries α}
    (found : entries.get? name = some value) : (name, value) ∈ entries := by
  rw [get?_eq_find?, Option.map_eq_some_iff] at found
  obtain ⟨⟨key, _⟩, first, rfl⟩ := found
  have same : key = name := by simpa using List.find?_some first
  exact same ▸ List.mem_of_find?_eq_some first

theorem mem_insert {entry : String × α} {name : String} {value : α} {entries : Entries α}
    (member : entry ∈ entries.insert name value) : entry = (name, value) ∨ entry ∈ entries := by
  induction entries with
  | nil => simpa [insert] using member
  | cons first rest ih =>
      obtain ⟨key, old⟩ := first
      simp only [insert] at member
      split at member
      · simpa using member
      · split at member
        · rcases List.mem_cons.mp member with same | later
          · exact .inl same
          · exact .inr (List.mem_cons_of_mem _ later)
        · rcases List.mem_cons.mp member with same | later
          · exact .inr (same ▸ List.mem_cons_self)
          · rcases ih later with new | old
            · exact .inl new
            · exact .inr (List.mem_cons_of_mem _ old)

theorem Ascending.get?_of_mem {entries : Entries α} (ascending : entries.Ascending) {name : String}
    {value : α} (member : (name, value) ∈ entries) : entries.get? name = some value := by
  induction entries with
  | nil => cases member
  | cons entry rest ih =>
      obtain ⟨key, first⟩ := entry
      simp only [Ascending, names, List.map_cons, List.pairwise_cons] at ascending
      rcases List.mem_cons.mp member with same | later
      · cases same
        simp
      · have after : key < name := ascending.1 name (List.mem_map.mpr ⟨_, later, rfl⟩)
        have different : name ≠ key := fun same => String.lt_irrefl key (same ▸ after)
        rw [get?_cons, if_neg different]
        exact ih ascending.2 later

end Entries

namespace Table

variable {α : Type} {table : Table α}

theorem mem_of_get? {name : String} {value : α} (found : table.get? name = some value) :
    (name, value) ∈ table.entries :=
  Entries.mem_of_get? found

/-- Every entry of a table is found in it. -/
theorem get?_of_mem {name : String} {value : α} (member : (name, value) ∈ table.entries) :
    table.get? name = some value :=
  table.ascending.get?_of_mem member

theorem mem_insertNew {entry : String × α} {name : String} {value : α}
    (member : entry ∈ (table.insertNew name value).entries) :
    entry = (name, value) ∨ entry ∈ table.entries := by
  unfold insertNew at member
  split at member
  · exact .inr member
  · exact Entries.mem_insert member

theorem insertNew_of_isSome {name : String} (bound : (table.get? name).isSome) (value : α) :
    table.insertNew name value = table := by
  simp [insertNew, contains, bound]

end Table

namespace Scope

theorem def?_addDef (scope : Scope) (name other : String) (definition : Def) :
    (scope.addDef name definition).def? other =
      (scope.def? other <|> if other = name then some definition else none) := by
  simp only [def?, addDef, Table.get?_insertNew]
  by_cases same : other = name
  · subst same
    cases scope.defs.get? other <;> simp
  · simp [same]

@[simp]
theorem addDefs_nil (scope : Scope) : scope.addDefs [] = scope := rfl

@[simp]
theorem addDefs_cons (scope : Scope) (name : String) (definition : Def)
    (rest : List (String × Def)) :
    scope.addDefs ((name, definition) :: rest) = (scope.addDef name definition).addDefs rest := rfl

theorem addDefs_append (scope : Scope) (first second : List (String × Def)) :
    scope.addDefs (first ++ second) = (scope.addDefs first).addDefs second :=
  List.foldl_append

/-- Added defs are found behind those of the scope, the first of a name before the others. -/
theorem def?_addDefs (scope : Scope) (defs : List (String × Def)) (name : String) :
    (scope.addDefs defs).def? name = (scope.def? name <|> Entries.get? name defs) := by
  induction defs generalizing scope with
  | nil => simp
  | cons entry rest ih =>
      obtain ⟨key, definition⟩ := entry
      rw [addDefs_cons, ih, def?_addDef]
      cases scope.def? name <;> by_cases same : name = key <;> simp [same]

/-- Only the defs of a scope change when defs are added. -/
theorem addDefs_eq (scope : Scope) (defs : List (String × Def)) :
    scope.addDefs defs = { scope with defs := (scope.addDefs defs).defs } := by
  induction defs generalizing scope with
  | nil => rfl
  | cons entry rest ih =>
      rw [addDefs_cons, ih]
      rfl

theorem mem_addDefs {scope : Scope} {defs : List (String × Def)} {entry : String × Def}
    (member : entry ∈ (scope.addDefs defs).defs.entries) :
    entry ∈ scope.defs.entries ∨ entry ∈ defs := by
  induction defs generalizing scope with
  | nil => exact .inl member
  | cons first rest ih =>
      rcases ih member with added | later
      · rcases Table.mem_insertNew added with new | old
        · exact .inr (new ▸ List.mem_cons_self)
        · exact .inl old
      · exact .inr (List.mem_cons_of_mem _ later)

theorem addDefs_of_bound {scope : Scope} {defs : List (String × Def)}
    (bound : ∀ entry ∈ defs, (scope.def? entry.1).isSome) : scope.addDefs defs = scope := by
  induction defs with
  | nil => rfl
  | cons entry rest ih =>
      obtain ⟨name, definition⟩ := entry
      have unchanged : scope.addDef name definition = scope := by
        rw [addDef, Table.insertNew_of_isSome (bound _ List.mem_cons_self)]
      rw [addDefs_cons, unchanged]
      exact ih fun entry member => bound entry (List.mem_cons_of_mem _ member)

/-- Adding the same defs again changes nothing. -/
theorem addDefs_addDefs_self (scope : Scope) (defs : List (String × Def)) :
    (scope.addDefs defs).addDefs defs = scope.addDefs defs := by
  refine addDefs_of_bound fun entry member => ?_
  have offered := Entries.get?_isSome_of_mem member
  rw [def?_addDefs]
  cases scope.def? entry.1 with
  | none => exact offered
  | some _ => rfl

end Scope

namespace Template

/-- A template and its ancestors, the nearest first. -/
def ancestry : Template → List Template
  | .root id main defs => [.root id main defs]
  | .extending id parent defs => .extending id parent defs :: parent.ancestry

/-- The entry point that a template is rendered through, which is that of its last ancestor. -/
def entryPoint : Template → Def
  | .root _ main _ => main
  | .extending _ parent _ => parent.entryPoint

/-- The defs of a template and of its ancestors, the nearest first. -/
def lineage (template : Template) : List (String × Def) :=
  template.ancestry.flatMap defs

/-- Everything that binding a template can add to a scope, in the order of precedence. -/
def offers (template : Template) : List (String × Def) :=
  template.lineage ++ [(mainName, template.entryPoint)]

/-- The template without a parent that has the defs of all ancestors. -/
def flattened (template : Template) : Template :=
  .root template.id template.entryPoint template.lineage

@[simp]
theorem lineage_root (id : String) (main : Def) (defs : List (String × Def)) :
    (Template.root id main defs).lineage = defs := by
  simp [lineage, ancestry, Template.defs]

@[simp]
theorem lineage_extending (id : String) (parent : Template) (defs : List (String × Def)) :
    (Template.extending id parent defs).lineage = defs ++ parent.lineage := by
  simp [lineage, ancestry, Template.defs]

/-- Binding a template is adding what it offers, in order. -/
theorem bindInto_eq_addDefs : (template : Template) → (scope : Scope) →
    template.bindInto scope = scope.addDefs template.offers
  | .root _ main defs, scope => by
      rw [offers, lineage_root, Scope.addDefs_append]
      rfl
  | .extending _ parent defs, scope => by
      have rest := parent.bindInto_eq_addDefs (scope.addDefs defs)
      rw [offers, lineage_extending, List.append_assoc, Scope.addDefs_append]
      exact rest

@[simp]
theorem offers_flattened (template : Template) : template.flattened.offers = template.offers := by
  simp [flattened, offers, entryPoint]

theorem bind_flattened (template : Template) (scope : Scope) :
    template.flattened.bind scope = template.bind scope := by
  simp only [bind, bindInto_eq_addDefs, offers_flattened]
  rfl

/-- Only the defs of a scope change when a template is bound into it. -/
theorem bindInto_eq (template : Template) (scope : Scope) :
    template.bindInto scope = { scope with defs := (template.bindInto scope).defs } := by
  rw [bindInto_eq_addDefs]
  exact scope.addDefs_eq template.offers

theorem lookup_bindInto (template : Template) (scope : Scope) (name : String) :
    (template.bindInto scope).lookup name = scope.lookup name := by
  rw [bindInto_eq]
  rfl

/-- Binding a template again changes nothing. -/
theorem bindInto_bindInto (template : Template) (scope : Scope) :
    template.bindInto (template.bindInto scope) = template.bindInto scope := by
  simp only [bindInto_eq_addDefs, Scope.addDefs_addDefs_self]

theorem defs_withDef (template : Template) (name : String) (definition : Def) :
    (template.withDef name definition).defs = template.defs ++ [(name, definition)] := by
  cases template <;> rfl

/-- Defs stand in the order in which they were added. -/
theorem defs_withDefs (template : Template) (defs : List (String × Def)) :
    (template.withDefs defs).defs = template.defs ++ defs := by
  induction defs generalizing template with
  | nil => simp [withDefs]
  | cons entry rest ih =>
      change ((template.withDef entry.1 entry.2).withDefs rest).defs = _
      rw [ih, defs_withDef, List.append_assoc]
      rfl

/-- A bound name means what the scope says, or else the first offer of that name. -/
theorem def?_bindInto (template : Template) (scope : Scope) (name : String) :
    (template.bindInto scope).def? name =
      (scope.def? name <|> (template.lineage.find? (·.1 = name)).map Prod.snd <|>
        if name = mainName then some template.entryPoint else none) := by
  rw [bindInto_eq_addDefs, Scope.def?_addDefs, offers, Entries.get?_append,
    Entries.get?_eq_find?]
  rfl

/-- What is exported are the names that the scope does not have; those it has keep their defs. -/
theorem exports_eq (template : Template) (scope : Scope) :
    template.exports scope = (template.bindInto scope).defs.names.filter fun name =>
      name ≠ mainName && !scope.hasDef name := by
  rw [exports, Table.names, Entries.names, List.filter_map]
  refine congrArg _ (List.filter_congr fun entry member => ?_)
  obtain ⟨name, definition⟩ := entry
  have bound : (template.bindInto scope).def? name = some definition := Table.get?_of_mem member
  have has : scope.hasDef name = (scope.def? name).isSome := rfl
  rw [def?_bindInto] at bound
  cases found : scope.def? name with
  | none => simp [has, found]
  | some old =>
      rw [found] at bound
      cases bound
      simp [has, found]

/-- Wherever a template is bound, there is an entry point. -/
theorem exists_main_bindInto (template : Template) (scope : Scope) :
    ∃ main, (template.bindInto scope).def? mainName = some main := by
  rw [← Option.isSome_iff_exists, def?_bindInto]
  simp

end Template

open Rendering in
/-- A render that finds an entry point consists in running it. -/
theorem Bound.renderBuffer_of_main (bound : Bound) {main : Def}
    (found : bound.scope.def? Template.mainName = some main) (depth : Nat) :
    bound.renderBuffer depth =
      ((note [.rendering bound.id] >>= fun _ => Def.invoke depth main []).run bound.scope).map
        fun run => run.mapState fun scope => { bound with scope } := by
  have entered : runMain (Def.invoke depth) bound.id { scope := bound.scope } =
      (note [.rendering bound.id] >>= fun _ => Def.invoke depth main [])
        { scope := bound.scope } := by
    simp only [runMain, bind_apply, Rendering.scope, found]
  rw [renderBuffer, Rendering.run, entered]
  rfl

open Rendering in
/--
Binding resolves every name from the child up: the scope's own def comes first, then the first def
of the name among the template and its ancestors, then the entry point of the root. So there is
always an entry point to run, binding a second time adds nothing, and inheritance can be flattened
without changing a render.
-/
theorem Template.bind_resolves_child_first (template : Template) (scope : Scope) :
    (∀ name, (template.bind scope).scope.def? name =
      (scope.def? name <|> (template.lineage.find? (·.1 = name)).map Prod.snd <|>
        if name = mainName then some template.entryPoint else none)) ∧
    (∀ defs, (template.withDefs defs).defs = template.defs ++ defs) ∧
    (∃ main, (template.bind scope).scope.def? mainName = some main ∧
      ∀ depth, (template.bind scope).renderBuffer depth =
        ((note [.rendering template.id] >>= fun _ => Def.invoke depth main []).run
          (template.bind scope).scope).map fun run =>
            run.mapState fun after => { template.bind scope with scope := after }) ∧
    template.bind (template.bind scope).scope = template.bind scope ∧
    ∀ depth, (template.flattened.bind scope).render depth =
      (template.bind scope).render depth := by
  refine ⟨template.def?_bindInto scope, template.defs_withDefs, ?_, ?_, fun depth => ?_⟩
  · obtain ⟨main, found⟩ := template.exists_main_bindInto scope
    exact ⟨main, found, (template.bind scope).renderBuffer_of_main found⟩
  · simp only [Template.bind, bindInto_bindInto]
  · rw [bind_flattened]

end Stencil
