import Stencil.Template.Binding

/-!
# Running template bodies

A `Rendering` is a step of a run. It works on a scope, writes to a page and notes events, and it
ends with a result or an error; what was written, added and noted before an error stays. It may
also not end at all, if calls are nested more deeply than the depth granted to it.
-/

namespace Stencil

/-- Where a run stands. -/
structure Progress where
  /-- The scope of the body that runs. -/
  scope : Scope
  /-- What the body has written. -/
  page : Buffer := {}
  /-- What has happened in the whole run. -/
  events : Array Event := #[]

/-- A step of a run. -/
def Rendering (α : Type) : Type :=
  Progress → Option (Except RenderError α × Progress)

namespace Rendering

variable {α β : Type}

/-- A step that changes nothing. -/
def ofValue (value : α) : Rendering α :=
  fun progress => some (.ok value, progress)

/-- Two steps in a row; an error of the first is an error of both. -/
def andThen (first : Rendering α) (next : α → Rendering β) : Rendering β :=
  fun progress =>
    match first progress with
    | none => none
    | some (.error error, progress) => some (.error error, progress)
    | some (.ok value, progress) => next value progress

instance : Monad Rendering where
  pure := ofValue
  bind := andThen

@[simp]
theorem pure_apply (value : α) (progress : Progress) :
    (pure value : Rendering α) progress = some (.ok value, progress) := rfl

theorem bind_apply (first : Rendering α) (next : α → Rendering β) (progress : Progress) :
    (first >>= next) progress =
      match first progress with
      | none => none
      | some (.error error, progress) => some (.error error, progress)
      | some (.ok value, progress) => next value progress := rfl

/-- A step that never ends. -/
def unending : Rendering α :=
  fun _ => none

/-- A step that fails. -/
def fail (error : RenderError) : Rendering α :=
  fun progress => some (.error error, progress)

/-- The result of a computation that may fail. -/
def ofExcept (result : Except RenderError α) : Rendering α :=
  fun progress => some (result, progress)

/-- The scope of the body that runs. -/
def scope : Rendering Scope :=
  fun progress => some (.ok progress.scope, progress)

/-- Notes events. -/
def note (events : List Event) : Rendering Unit :=
  fun progress => some (.ok (), { progress with events := progress.events ++ events })

/-- Changes the page. -/
def modifyPage (change : Buffer → Buffer) : Rendering Unit :=
  fun progress => some (.ok (), { progress with page := change progress.page })

/-- Adds a variable to the context unless it is there; whether it was added. -/
def addVar (name : String) (value : Json) : Rendering Bool :=
  fun progress =>
    let (stored, scope) := progress.scope.storeVar name value
    some (.ok stored, { progress with scope })

/-- Reads a name in the scope; that it is unknown is noted, unless it is an error. -/
def readName (read : Scope → String → Except RenderError α) (name : String) : Rendering α := do
  let scope ← scope
  let value ← ofExcept (read scope name)
  if (scope.resolve name).isNone then note [.unresolved name]
  return value

/-- The value of a name. -/
def lookup (name : String) : Rendering (Option Json) :=
  readName Scope.lookup name

/-- The value of a name, or null. -/
def lookupOrNull (name : String) : Rendering Json :=
  readName Scope.lookupOrNull name

/-- What a step writes to a page of its own; the page of the caller is left as it was. -/
def collect (step : Rendering Unit) : Rendering Buffer :=
  fun progress =>
    match step { progress with page := {} } with
    | none => none
    | some (result, after) =>
        some (result.map fun _ => after.page, { after with page := progress.page })

/-- A step in another scope; the scope of the caller is left as it was. -/
def inScope (other : Scope) (step : Rendering α) : Rendering α :=
  fun progress =>
    match step { progress with scope := other } with
    | none => none
    | some (result, after) => some (result, { after with scope := progress.scope })

/-- A step for every element of a list, with its position, from a given position on. -/
def forEach (step : α → Nat → Rendering Unit) : List α → Nat → Rendering Unit
  | [], _ => pure ()
  | item :: items, position => do
      step item position
      forEach step items (position + 1)

end Rendering

/-- What a run in a state ended with: a result or an error, and the state it left behind. -/
structure Run (α σ : Type) where
  /-- The result. -/
  outcome : Except RenderError α
  /-- The state after the run. -/
  state : σ
  /-- What happened during the run. -/
  events : List Event

/-- A run whose state is kept as a part of something larger. -/
def Run.mapState {α σ τ : Type} (run : Run α σ) (change : σ → τ) : Run α τ :=
  { run with state := change run.state }

/-- A run with a function of its result. -/
def Run.map {α β σ : Type} (run : Run α σ) (change : α → β) : Run β σ :=
  { run with outcome := run.outcome.map change }

/-- The run of a step in a scope, if it ends. -/
def Rendering.run {α : Type} (step : Rendering α) (scope : Scope) : Option (Run α Scope) :=
  (step { scope }).map fun (outcome, after) =>
    { outcome, state := after.scope, events := after.events.toList }

end Stencil
