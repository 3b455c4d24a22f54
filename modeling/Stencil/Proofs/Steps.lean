import Stencil.Bound

/-!
# How steps end

Every step of a run is made from a few primitive steps by a few ways of joining them. For each of
these one statement says how such a step can end, so that a property of runs is proved without
opening them. The steps that only look at what a body was given are all alike (`Rendering.Reads`).

A property of the scope and the page that every step keeps is an `Invariant`. `Rendering.Ensures`
says that a step keeps it and promises something about its result; there is one rule for each way
of making a step.
-/

namespace Stencil

namespace Rendering

variable {α β : Type} {progress after : Progress}

/-- Two steps end with an error of the first, or with what the second ends with. -/
theorem bind_eq_some {first : Rendering α} {next : α → Rendering β}
    {result : Except RenderError β} (ended : (first >>= next) progress = some (result, after)) :
    (∃ error, first progress = some (.error error, after) ∧ result = .error error) ∨
      ∃ value middle, first progress = some (.ok value, middle) ∧
        next value middle = some (result, after) := by
  rw [bind_apply] at ended
  match begun : first progress with
  | none =>
      rw [begun] at ended
      cases ended
  | some (.error error, middle) =>
      rw [begun] at ended
      cases ended
      exact .inl ⟨error, rfl, rfl⟩
  | some (.ok value, middle) =>
      rw [begun] at ended
      exact .inr ⟨value, middle, rfl, ended⟩

/-- What a step has written to a page of its own is handed over if the step succeeds. -/
theorem collect_eq_some {step : Rendering Unit} {result : Except RenderError Buffer}
    (ended : collect step progress = some (result, after)) :
    ∃ outcome inner, step { progress with page := {} } = some (outcome, inner) ∧
      result = outcome.map (fun _ => inner.page) ∧
      after = { inner with page := progress.page } := by
  simp only [collect] at ended
  match begun : step { progress with page := {} } with
  | none =>
      rw [begun] at ended
      cases ended
  | some (outcome, inner) =>
      rw [begun] at ended
      cases ended
      exact ⟨outcome, inner, rfl, rfl, rfl⟩

/-- A step in another scope gives back the scope it was taken from. -/
theorem inScope_eq_some {other : Scope} {step : Rendering α} {result : Except RenderError α}
    (ended : inScope other step progress = some (result, after)) :
    ∃ inner, step { progress with scope := other } = some (result, inner) ∧
      after = { inner with scope := progress.scope } := by
  simp only [inScope] at ended
  match begun : step { progress with scope := other } with
  | none =>
      rw [begun] at ended
      cases ended
  | some (outcome, inner) =>
      rw [begun] at ended
      cases ended
      exact ⟨inner, rfl, rfl⟩

@[simp]
theorem scope_apply (progress : Progress) :
    scope progress = some (.ok progress.scope, progress) := rfl

/-- A lookup leaves everything as it was, but for a note about a name without a value. -/
theorem lookup_apply (name : String) (progress : Progress) :
    lookup name progress =
      match progress.scope.lookup name with
      | .error error => some (.error error, progress)
      | .ok (some value) => some (.ok (some value), progress)
      | .ok none => some (.ok none,
          { progress with events := progress.events ++ [Event.unresolved name] }) := by
  simp only [lookup, readName, bind_apply, scope_apply, ofExcept, Scope.lookup]
  cases progress.scope.resolve name with
  | some _ => rfl
  | none => cases progress.scope.policy <;> rfl

/-- A lookup that falls back to null is a lookup, with null in place of no value. -/
theorem lookupOrNull_eq (name : String) :
    lookupOrNull name = lookup name >>= fun found => pure (found.getD .null) := by
  funext progress
  simp only [lookupOrNull, lookup, readName, bind_apply, scope_apply, ofExcept,
    Scope.lookupOrNull, Scope.lookup]
  cases progress.scope.resolve name with
  | some _ => rfl
  | none => cases progress.scope.policy <;> rfl

/-- A step that depends on no scope and no page: it gives a value as promised, or it fails. -/
inductive Reads (promise : α → Prop) : Rendering α → Prop where
  | value {value : α} (promised : promise value) : Reads promise (pure value)
  | error {error : RenderError} (other : ∀ name, error ≠ .nameNotFound name) :
      Reads promise (fail error)

theorem Reads.mono {promise weaker : α → Prop} {step : Rendering α} (reads : Reads promise step)
    (weaken : ∀ value, promise value → weaker value) : Reads weaker step := by
  cases reads with
  | value promised => exact .value (weaken _ promised)
  | error other => exact .error other

end Rendering

open Rendering

namespace Frame

theorem argument_reads (frame : Frame) (index : Nat) :
    Reads (fun _ => True) (frame.argument index) := by
  unfold argument
  split
  · exact .value trivial
  · exact .error nofun

theorem dependency_reads_at (frame : Frame) (index : Nat) :
    Reads (frame.dependencies[index]? = some ·) (frame.dependency index) := by
  unfold dependency
  split
  · next template found => exact .value found
  · exact .error nofun

theorem dependency_reads (frame : Frame) (index : Nat) :
    Reads (· ∈ frame.dependencies) (frame.dependency index) :=
  (frame.dependency_reads_at index).mono fun _ => List.mem_of_getElem?

theorem currentItem_reads (frame : Frame) : Reads (fun _ => True) frame.currentItem := by
  unfold currentItem
  split
  · exact .value trivial
  · exact .error nofun

end Frame

namespace Value

theorem items_reads (value : Value) (complaint : Complaint) :
    Reads (fun _ => True) (value.items complaint) := by
  unfold items
  split
  · exact .value trivial
  · exact .error nofun

theorem fields_reads (value : Value) : Reads (fun _ => True) value.fields := by
  unfold fields
  split
  · exact .value trivial
  · exact .error nofun

end Value

theorem Json.read_reads (text : String) : Reads (fun _ => True) (ofExcept (Json.read text)) := by
  unfold Json.read
  cases Json.parse text with
  | ok data => exact .value trivial
  | error error => exact .error nofun

/-- A condition on where a run stands. -/
structure Invariant where
  /-- The condition on the scope. -/
  scope : Scope → Prop
  /-- The condition on the page. -/
  page : Buffer → Prop

/-- The scope and the page of a run both meet their conditions. -/
def Invariant.Holds (invariant : Invariant) (progress : Progress) : Prop :=
  invariant.scope progress.scope ∧ invariant.page progress.page

namespace Rendering

variable {α β : Type} {invariant : Invariant}

/-- A step that ends keeps an invariant, and its result is as promised. -/
def Ensures (invariant : Invariant) (step : Rendering α) (promise : α → Prop) : Prop :=
  ∀ progress result after, step progress = some (result, after) → invariant.Holds progress →
    invariant.Holds after ∧ ∀ value, result = .ok value → promise value

namespace Ensures

theorem mono {step : Rendering α} {promise weaker : α → Prop}
    (step_ensures : Ensures invariant step promise)
    (weaken : ∀ value, promise value → weaker value) : Ensures invariant step weaker := by
  intro progress result after ended holds
  obtain ⟨kept, promised⟩ := step_ensures _ _ _ ended holds
  exact ⟨kept, fun value succeeded => weaken value (promised value succeeded)⟩

theorem pure {promise : α → Prop} {value : α} (promised : promise value) :
    Ensures invariant (pure value) promise := by
  intro progress result after ended holds
  cases ended
  refine ⟨holds, fun other same => ?_⟩
  cases same
  exact promised

theorem fail (error : RenderError) (promise : α → Prop) :
    Ensures invariant (fail error) promise := by
  intro progress result after ended holds
  cases ended
  exact ⟨holds, fun _ impossible => nomatch impossible⟩

theorem reads {step : Rendering α} {promise : α → Prop} (reads : Reads promise step) :
    Ensures invariant step promise := by
  cases reads with
  | value promised => exact pure promised
  | error => exact fail _ promise

theorem bind {first : Rendering α} {next : α → Rendering β} {promise : α → Prop}
    {later : β → Prop} (first_ensures : Ensures invariant first promise)
    (next_ensures : ∀ value, promise value → Ensures invariant (next value) later) :
    Ensures invariant (first >>= next) later := by
  intro progress result after ended holds
  rcases bind_eq_some ended with ⟨error, begun, rfl⟩ | ⟨value, middle, begun, continued⟩
  · exact ⟨(first_ensures _ _ _ begun holds).1, fun _ impossible => nomatch impossible⟩
  · obtain ⟨kept, promised⟩ := first_ensures _ _ _ begun holds
    exact next_ensures value (promised value rfl) _ _ _ continued kept

theorem scope : Ensures invariant scope invariant.scope := by
  intro progress result after ended holds
  cases ended
  refine ⟨holds, fun value same => ?_⟩
  cases same
  exact holds.1

theorem note (events : List Event) : Ensures invariant (note events) fun _ => True := by
  intro progress result after ended holds
  cases ended
  exact ⟨holds, fun _ _ => trivial⟩

theorem modifyPage {change : Buffer → Buffer}
    (kept : ∀ page, invariant.page page → invariant.page (change page)) :
    Ensures invariant (modifyPage change) fun _ => True := by
  intro progress result after ended holds
  cases ended
  exact ⟨⟨holds.1, kept _ holds.2⟩, fun _ _ => trivial⟩

theorem addVar {name : String} {value : Json}
    (kept : ∀ scope, invariant.scope scope → invariant.scope (scope.addVar name value)) :
    Ensures invariant (addVar name value) fun _ => True := by
  intro progress result after ended holds
  cases ended
  exact ⟨⟨kept _ holds.1, holds.2⟩, fun _ _ => trivial⟩

theorem lookup (name : String) : Ensures invariant (lookup name) fun _ => True := by
  intro progress result after ended holds
  rw [lookup_apply] at ended
  split at ended <;> cases ended <;> exact ⟨holds, fun _ _ => trivial⟩

theorem lookupOrNull (name : String) : Ensures invariant (lookupOrNull name) fun _ => True := by
  rw [lookupOrNull_eq]
  exact .bind (.lookup name) fun _ _ => .pure trivial

theorem collect {step : Rendering Unit} (blank : invariant.page {})
    (step_ensures : Ensures invariant step fun _ => True) :
    Ensures invariant (collect step) invariant.page := by
  intro progress result after ended holds
  obtain ⟨outcome, inner, begun, rfl, rfl⟩ := collect_eq_some ended
  obtain ⟨kept, _⟩ := step_ensures _ _ _ begun ⟨holds.1, blank⟩
  refine ⟨⟨kept.1, holds.2⟩, fun value succeeded => ?_⟩
  cases outcome with
  | error => cases succeeded
  | ok =>
      cases succeeded
      exact kept.2

theorem inScope {other : Scope} {step : Rendering α} {promise : α → Prop}
    (good : invariant.scope other) (step_ensures : Ensures invariant step promise) :
    Ensures invariant (inScope other step) promise := by
  intro progress result after ended holds
  obtain ⟨inner, begun, rfl⟩ := inScope_eq_some ended
  obtain ⟨kept, promised⟩ := step_ensures _ _ _ begun ⟨good, holds.2⟩
  exact ⟨⟨holds.1, kept.2⟩, promised⟩

theorem forEach {step : α → Nat → Rendering Unit}
    (step_ensures : ∀ item position, Ensures invariant (step item position) fun _ => True)
    (items : List α) (position : Nat) :
    Ensures invariant (forEach step items position) fun _ => True := by
  induction items generalizing position with
  | nil => exact pure trivial
  | cons item items ih => exact bind (step_ensures item position) fun _ _ => ih (position + 1)

end Ensures

end Rendering

/-- A render is the run of the entry point that is bound, with the text of what it writes. -/
theorem Bound.render_eq (bound : Bound) (depth : Nat) :
    bound.render depth =
      (runMain (Def.invoke depth) bound.id { scope := bound.scope }).map fun ended =>
        { outcome := ended.1.map Buffer.flatten
          state := { bound with scope := ended.2.scope }
          events := ended.2.events.toList } := by
  simp only [render, renderBuffer, Rendering.run, Option.map_map]
  rfl

end Stencil
