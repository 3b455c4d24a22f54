import Stencil.Scope

/-!
# Accesses to a context

Running bodies reach the context of a scope by lookups and additions only. An `Action` is one such
access, with what came of it. A list of actions leads from one scope to another if every access,
made in its turn, comes out as it is recorded (`Scope.Replays`).

Nothing but the variables changes on the way, and the actions tell what they become: a name that
was there keeps its value, and every other name has the value of its first addition.
-/

namespace Stencil

/-- An access to the context of a scope, and what came of it. -/
inductive Action where
  /-- A lookup: whether the context had the name, and what the lookup gave. -/
  | lookup (name : String) (inContext : Bool) (outcome : Except RenderError (Option Json))
  /-- An addition: whether the value was stored. -/
  | add (name : String) (value : Json) (stored : Bool)

namespace Action

/-- The value that an action adds under a name. -/
def added? (name : String) : Action → Option Json
  | .lookup _ _ _ => none
  | .add other value _ => if name = other then some value else none

/-- The value of the first addition of a name. -/
def firstAdded (name : String) (actions : List Action) : Option Json :=
  actions.findSome? (added? name)

theorem firstAdded_add (name other : String) (value : Json) (stored : Bool)
    (actions : List Action) :
    firstAdded name (.add other value stored :: actions) =
      if name = other then some value else firstAdded name actions := by
  rw [firstAdded, List.findSome?_cons, added?]
  by_cases same : name = other
  · simp only [if_pos same]
  · simp only [if_neg same, firstAdded]

theorem firstAdded_eq_none {name : String} {actions : List Action} :
    firstAdded name actions = none ↔ ∀ value stored, .add name value stored ∉ actions := by
  rw [firstAdded, List.findSome?_eq_none_iff]
  constructor
  · intro none_adds value stored member
    have impossible := none_adds _ member
    simp [added?] at impossible
  · rintro absent (_ | ⟨other, value, stored⟩) member
    · rfl
    · have different : name ≠ other := by
        rintro rfl
        exact absent value stored member
      rw [added?, if_neg different]

end Action

namespace Scope

theorem lookup_of_get? {scope : Scope} {name : String} {value : Json}
    (found : scope.vars.get? name = some value) : scope.lookup name = .ok (some value) := by
  apply lookup_of_resolve
  rw [resolve, found]
  rfl

/-- A lookup that the context answers gives the value in the context. -/
theorem get?_of_lookup {scope : Scope} {name : String} {value : Json}
    (inContext : scope.hasVar name = true) (found : scope.lookup name = .ok (some value)) :
    scope.vars.get? name = some value := by
  obtain ⟨own, stored⟩ := Option.isSome_iff_exists.mp inContext
  rw [lookup_of_get? stored] at found
  cases found
  exact stored

/-- Actions that, made in order from one scope on, come out as recorded and lead to another. -/
inductive Replays : Scope → List Action → Scope → Prop where
  | nil (scope : Scope) : Replays scope [] scope
  | lookup {scope after : Scope} {actions : List Action} (name : String)
      (rest : Replays scope actions after) :
      Replays scope (.lookup name (scope.hasVar name) (scope.lookup name) :: actions) after
  | add {scope after : Scope} {actions : List Action} (name : String) (value : Json)
      (rest : Replays (scope.addVar name value) actions after) :
      Replays scope (.add name value (!scope.hasVar name) :: actions) after

namespace Replays

variable {before middle after : Scope} {actions earlier later : List Action} {name : String}
  {value : Json}

theorem append (first : Replays before earlier middle) (second : Replays middle later after) :
    Replays before (earlier ++ later) after := by
  induction first with
  | nil => exact second
  | lookup name _ ih => exact .lookup name (ih second)
  | add name value _ ih => exact .add name value (ih second)

/-- What a list of actions has led through. -/
theorem of_append (replays : Replays before (earlier ++ later) after) :
    ∃ middle, Replays before earlier middle ∧ Replays middle later after := by
  induction earlier generalizing before with
  | nil => exact ⟨before, .nil before, replays⟩
  | cons action earlier ih =>
      cases replays with
      | lookup name rest =>
          obtain ⟨middle, first, second⟩ := ih rest
          exact ⟨middle, .lookup name first, second⟩
      | add name value rest =>
          obtain ⟨middle, first, second⟩ := ih rest
          exact ⟨middle, .add name value first, second⟩

/-- Only the variables change. -/
theorem eq_withVars (replays : Replays before actions after) :
    after = { before with vars := after.vars } := by
  induction replays with
  | nil => rfl
  | lookup _ _ ih => exact ih
  | add _ _ _ ih => exact ih

/-- A name has the value it had, or else that of its first addition. -/
theorem get?_vars (replays : Replays before actions after) (name : String) :
    after.vars.get? name = (before.vars.get? name).or (Action.firstAdded name actions) := by
  induction replays with
  | nil => exact Option.or_none.symm
  | lookup _ _ ih => exact ih
  | @add scope _ actions added value _ ih =>
      rw [ih, get?_addVar, Action.firstAdded_add]
      by_cases same : name = added
      · subst same
        cases scope.vars.get? name <;> simp
      · rw [if_neg same, if_neg same]

theorem hasVar_eq_false_iff (replays : Replays before actions after) :
    after.hasVar name = false ↔
      before.hasVar name = false ∧ ∀ value stored, .add name value stored ∉ actions := by
  simp only [hasVar, Table.contains, replays.get?_vars, Option.isSome_eq_false_iff,
    Option.isNone_iff_eq_none, Option.or_eq_none_iff, Action.firstAdded_eq_none]

/-- An addition is stored only if it is the first of its name and the name was not there. -/
theorem stored_iff {stored : Bool}
    (replays : Replays before (earlier ++ .add name value stored :: later) after) :
    stored = true ↔
      before.hasVar name = false ∧ ∀ value stored, .add name value stored ∉ earlier := by
  obtain ⟨middle, first, second⟩ := replays.of_append
  cases second with
  | add =>
      rw [Bool.not_eq_true', first.hasVar_eq_false_iff]

/-- Every lookup of a name in the context gives its value. -/
theorem outcome_of_mem {inContext : Bool} {outcome : Except RenderError (Option Json)}
    (replays : Replays before actions after) (known : before.vars.get? name = some value)
    (member : Action.lookup name inContext outcome ∈ actions) :
    inContext = true ∧ outcome = .ok (some value) := by
  obtain ⟨earlier, later, rfl⟩ := List.append_of_mem member
  obtain ⟨middle, first, second⟩ := replays.of_append
  have kept : middle.vars.get? name = some value := by
    rw [first.get?_vars, known, Option.some_or]
  cases second with
  | lookup =>
      refine ⟨?_, lookup_of_get? kept⟩
      rw [hasVar, Table.contains, kept, Option.isSome_some]

/-- A name that the context has answered for once is in the context from then on. -/
theorem get?_of_found (replays : Replays before
      (earlier ++ .lookup name true (.ok (some value)) :: later) after) :
    ∃ middle, Replays middle later after ∧ middle.vars.get? name = some value := by
  obtain ⟨middle, _, second⟩ := replays.of_append
  -- What is recorded are values; `Replays` computes them from the scope.
  generalize recorded : Action.lookup name true (.ok (some value)) = action at second
  cases second with
  | add => cases recorded
  | lookup _ rest =>
      injection recorded with same inContext found
      subst same
      exact ⟨middle, rest, get?_of_lookup inContext.symm found.symm⟩

end Replays

end Scope

end Stencil
