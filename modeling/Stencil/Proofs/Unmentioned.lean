import Stencil.Builtin
import Stencil.Proofs.Simulation

/-!
# Names that no body mentions

A body reads and extends its context only under the names that stand in it. So a name that stands
in no body that a render can reach is of no consequence: two renders whose contexts and globals
differ at that name alone end alike, and what they leave behind differs at that name alone.

The two runs go side by side in scopes that agree apart from the name. A lookup or an addition is
of another name, an include starts from the globals, which agree as well, and an import copies a
scope.
-/

namespace Stencil

/-- The names that a part looks up in the scope or adds to it. -/
def Part.mentions : Part → List String
  | .expr (.lookup name) => [name]
  | .expr (.lookupOrNull name) => [name]
  | .expr (.add name _) => [name]
  | _ => []

/-- The names that the body of a def looks up in the scope or adds to it. -/
def Def.mentions (definition : Def) : List String :=
  definition.parts.flatMap Part.mentions

/-- Two tables have the same entries, except perhaps under one name. -/
def Table.AgreeApart {α : Type} (name : String) (table other : Table α) : Prop :=
  ∀ key, key ≠ name → other.get? key = table.get? key

/-- Two scopes are the same, except perhaps for what one name means in the context and globals. -/
structure Scope.AgreeApart (name : String) (scope other : Scope) : Prop where
  vars : Table.AgreeApart name scope.vars other.vars
  globals : Table.AgreeApart name scope.globals other.globals
  defs : other.defs = scope.defs
  policy : other.policy = scope.policy

namespace Scope.AgreeApart

variable {name : String} {scope other : Scope}

theorem symm (agree : scope.AgreeApart name other) : other.AgreeApart name scope where
  vars key different := (agree.vars key different).symm
  globals key different := (agree.globals key different).symm
  defs := agree.defs.symm
  policy := agree.policy.symm

theorem lookup (agree : scope.AgreeApart name other) {key : String} (different : key ≠ name) :
    other.lookup key = scope.lookup key := by
  simp only [Scope.lookup, resolve, agree.vars key different, agree.globals key different,
    agree.policy]

theorem hasVar (agree : scope.AgreeApart name other) {key : String} (different : key ≠ name) :
    other.hasVar key = scope.hasVar key := by
  simp only [Scope.hasVar, Table.contains, agree.vars key different]

theorem addVar (agree : scope.AgreeApart name other) {key : String} (different : key ≠ name)
    (value : Json) : (scope.addVar key value).AgreeApart name (other.addVar key value) where
  vars := by
    intro found apart
    rw [get?_addVar, get?_addVar, agree.vars key different, agree.vars found apart]
  globals := agree.globals
  defs := agree.defs
  policy := agree.policy

theorem addDefs (agree : scope.AgreeApart name other) (defs : List (String × Def)) :
    (scope.addDefs defs).AgreeApart name (other.addDefs defs) := by
  induction defs generalizing scope other with
  | nil => exact agree
  | cons entry rest ih =>
      refine ih { agree with defs := ?_ }
      simp only [addDef, agree.defs]

theorem bindInto (agree : scope.AgreeApart name other) (template : Template) :
    (template.bindInto scope).AgreeApart name (template.bindInto other) := by
  rw [template.bindInto_eq_addDefs, template.bindInto_eq_addDefs]
  exact agree.addDefs template.offers

/-- The scope of an include takes over the globals and the policy of its caller. -/
theorem fresh (agree : scope.AgreeApart name other) (vars : Table Json) :
    AgreeApart name { vars, globals := scope.globals, policy := scope.policy }
      { vars, globals := other.globals, policy := other.policy } where
  vars _ _ := rfl
  globals := agree.globals
  defs := rfl
  policy := agree.policy

end Scope.AgreeApart

namespace Coupling

/-- Two runs of defs from a family, in scopes that agree apart from a name. -/
def apart (family : Def → Prop) (name : String) : Coupling where
  scopes scope other := scope.AgreeApart name other ∧ scope.Within family

variable {family : Def → Prop} {name : String}

theorem apart_looks {key : String} (different : key ≠ name) : (apart family name).Looks key :=
  fun _ _ related => .inr ⟨related.1.lookup different, fun _ _ => trivial⟩

theorem apart_adds {key : String} (different : key ≠ name) : (apart family name).Adds key :=
  fun _ _ value related =>
    ⟨related.1.hasVar different, related.1.addVar different value, related.2⟩

theorem apart_includes : (apart family name).Includes :=
  fun _ _ vars related => ⟨related.1.fresh vars, Scope.within_of_no_defs family vars _ _⟩

/-- What a part asks of the two scopes is granted if it mentions other names only. -/
theorem apart_supports {part : Part} (unmentioned : name ∉ part.mentions) :
    (apart family name).Supports part := by
  unfold Supports
  split
  · exact apart_looks fun same => unmentioned (same ▸ List.mem_singleton_self _)
  · exact apart_looks fun same => unmentioned (same ▸ List.mem_singleton_self _)
  · exact apart_adds fun same => unmentioned (same ▸ List.mem_singleton_self _)
  · exact apart_includes
  · trivial

theorem apart_follows (closed : Def.Closed family)
    (unmentioned : ∀ definition, family definition → name ∉ definition.mentions) :
    (apart family name).Follows family where
  pages _ _ := Iff.rfl
  within related := related.2
  defs related := related.1.defs
  bindInto related offered := ⟨related.1.bindInto _, related.2.bindInto offered⟩
  closed := closed
  parts definition member part inside :=
    apart_supports fun mentioned =>
      unmentioned definition member (List.mem_flatMap.mpr ⟨part, inside, mentioned⟩)

theorem apart_symm {scope other : Scope} (related : (apart family name).scopes scope other) :
    (apart family name).scopes other scope := by
  refine ⟨related.1.symm, ?_⟩
  rw [Scope.Within, Scope.boundDefs, related.1.defs]
  exact related.2

end Coupling

/-- Of two renders in scopes that agree apart from an unmentioned name, both end if one does. -/
theorem Bound.render_apart {family : Def → Prop} {name : String} (closed : Def.Closed family)
    (unmentioned : ∀ definition, family definition → name ∉ definition.mentions)
    {bound other : Bound} (related : (Coupling.apart family name).scopes bound.scope other.scope)
    (same : other.id = bound.id) {depth : Nat} {run : Run String Bound}
    (ended : bound.render depth = some run) :
    ∃ second, other.render depth = some second ∧ second.outcome = run.outcome ∧
      run.state.scope.AgreeApart name second.state.scope := by
  have follows := Coupling.apart_follows closed unmentioned
  obtain ⟨second, second_ended, ⟨_, _, impossible⟩ | ⟨outcome, after, _⟩⟩ :=
    Bound.render_simulates follows ended related same
  · exact impossible.elim
  · exact ⟨second, second_ended, outcome, after.1⟩

/--
A name that no reachable body looks up or adds has no influence on a render, whatever it means in
the context and in the globals: the render ends or not, and succeeds or fails, as it does without
the name, and the contexts that are left behind agree apart from it.
-/
theorem Template.render_ignores_unmentioned (template : Template) (scope other : Scope)
    (name : String) (depth : Nat) (agree : scope.AgreeApart name other)
    (unmentioned : ∀ definition,
      Def.Reachable (template.offeredDefs ++ scope.boundDefs) definition →
        name ∉ definition.mentions) :
    ((template.bind other).render depth).map Run.outcome =
        ((template.bind scope).render depth).map Run.outcome ∧
      ∀ run second, (template.bind scope).render depth = some run →
        (template.bind other).render depth = some second →
          Table.AgreeApart name run.state.scope.vars second.state.scope.vars := by
  have closed := Def.Reachable.closed (template.offeredDefs ++ scope.boundDefs)
  have related : (Coupling.apart (Def.Reachable (template.offeredDefs ++ scope.boundDefs))
      name).scopes (template.bind scope).scope (template.bind other).scope :=
    ⟨agree.bindInto template, template.bindInto_within_reachable scope⟩
  constructor
  · cases ended : (template.bind scope).render depth with
    | some run =>
        obtain ⟨second, second_ended, outcome, _⟩ :=
          Bound.render_apart closed unmentioned related rfl ended
        rw [second_ended, Option.map_some, Option.map_some, outcome]
    | none =>
        -- The correspondence is symmetric: if the second render ended, so would the first.
        cases second_ended : (template.bind other).render depth with
        | none => rfl
        | some second =>
            obtain ⟨run, run_ended, _⟩ :=
              Bound.render_apart closed unmentioned (Coupling.apart_symm related) rfl second_ended
            exact nomatch ended.symm.trans run_ended
  · intro run second ended second_ended
    obtain ⟨found, found_ended, _, after⟩ :=
      Bound.render_apart closed unmentioned related rfl ended
    obtain rfl : found = second := Option.some.inj (found_ended.symm.trans second_ended)
    exact after.vars

namespace Builtin

/-- A card that hands more to a greeting than the greeting asks for. -/
def card : Template :=
  .root "card" (.mk [
    .write [.includeTemplate 0 [("name", .lookup "owner"), ("title", .text "Dr.")]]]
    [greeting]) []

/-- No body of the card looks up or adds a title. -/
theorem card_unmentioned {definition : Def}
    (reached : Def.Reachable (card.offeredDefs ++ []) definition) :
    "title" ∉ definition.mentions ∧ ∀ template ∈ definition.dependencies, template = greeting := by
  induction reached with
  | start member =>
      simp only [List.append_nil, Template.offeredDefs, Template.offers, card,
        Template.lineage_root, Template.entryPoint, List.nil_append, List.map_cons, List.map_nil,
        List.mem_singleton] at member
      subst member
      exact ⟨by decide, by simp [Def.dependencies]⟩
  | dependency _ used offered ih =>
      obtain rfl := ih.2 _ used
      simp only [Template.offeredDefs, Template.offers, greeting, Template.lineage_root,
        Template.entryPoint, List.nil_append, List.map_cons, List.map_nil,
        List.mem_singleton] at offered
      subst offered
      exact ⟨by decide, by simp [Def.dependencies]⟩

/-- A title changes nothing about the card, in the context and in the globals. -/
theorem card_ignores_title :
    ∃ run second,
      (card.bind { vars := .ofList [("owner", .string "Ada")] }).render 8 = some run ∧
      (card.bind { vars := .ofList [("owner", .string "Ada"), ("title", .string "<Dr>")],
                   globals := .ofList [("title", .null)] }).render 8 = some second ∧
      second.outcome = run.outcome ∧
      Table.AgreeApart "title" run.state.scope.vars second.state.scope.vars := by
  have ends :
      ((card.bind { vars := .ofList [("owner", .string "Ada")] }).render 8).isSome = true := by
    decide +kernel
  have agree : Scope.AgreeApart "title" { vars := .ofList [("owner", .string "Ada")] }
      { vars := .ofList [("owner", .string "Ada"), ("title", .string "<Dr>")],
        globals := .ofList [("title", .null)] } :=
    { vars := fun _ different => Table.get?_insert_of_ne different _ _
      globals := fun _ different => Table.get?_insert_of_ne different _ _
      defs := rfl
      policy := rfl }
  obtain ⟨run, ended⟩ := Option.isSome_iff_exists.mp ends
  obtain ⟨same, after⟩ := Template.render_ignores_unmentioned card _ _ "title" 8 agree
    fun _ reached => (card_unmentioned reached).1
  rw [ended, Option.map_some, Option.map_eq_some_iff] at same
  obtain ⟨second, second_ended, outcome⟩ := same
  exact ⟨run, second, ended, second_ended, outcome, after run second ended second_ended⟩

end Builtin

end Stencil
