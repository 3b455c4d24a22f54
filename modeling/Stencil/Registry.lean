import Stencil.Template.Binding

/-!
# Registries

Templates are registered under identifiers, each once. A module says what it needs: the identifiers
of other templates, which have to be registered before it, and how to build its own template from
them.
-/

namespace Stencil

/-- A template to be built from others. -/
structure Module where
  /-- The identifier to register the template under. -/
  id : String
  /-- The identifiers of the templates that it is built from. -/
  dependencies : List String := []
  /-- Builds the template from its dependencies, given in this order. -/
  build : List Template → Except RenderError Template

/-- The templates known by identifier. -/
structure Registry where
  /-- The templates. -/
  templates : Table Template := ∅

namespace Registry

/-- Whether a template is registered under an identifier. -/
def contains (registry : Registry) (id : String) : Bool :=
  registry.templates.contains id

/-- The template registered under an identifier. -/
def load (registry : Registry) (id : String) : Except RenderError Template :=
  match registry.templates.get? id with
  | some template => .ok template
  | none => .error (.templateNotFound id)

/-- The identifiers, in order. -/
def ids (registry : Registry) : List String :=
  registry.templates.names

/-- The templates registered under identifiers, or the error of the first that is not. -/
def loadAll (registry : Registry) : List String → Except RenderError (List Template)
  | [] => .ok []
  | id :: ids => do
      let template ← registry.load id
      let templates ← registry.loadAll ids
      return template :: templates

/-- The template that a module builds, if it can be registered. -/
def accept (registry : Registry) (module : Module) : Except RenderError Template :=
  if registry.contains module.id then .error (.duplicateTemplate module.id)
  else do
    let templates ← registry.loadAll module.dependencies
    module.build templates

/-- A registry with a module's template. -/
def define (registry : Registry) (module : Module) : Except RenderError Registry :=
  (registry.accept module).map fun template =>
    { templates := registry.templates.insert module.id template }

/-- A call that registers a module: its answer, and the registry after it. -/
def register (registry : Registry) (module : Module) : Except RenderError Unit × Registry :=
  match registry.define module with
  | .ok next => (.ok (), next)
  | .error error => (.error error, registry)

/-- The registry after calls in order, whatever their answers are. -/
def registerAll (registry : Registry) : List Module → Registry
  | [] => registry
  | module :: modules => (registry.register module).2.registerAll modules

/-- The events of registering a module. -/
def definitionEvents (registry : Registry) (module : Module) : List Event :=
  match registry.accept module with
  | .ok template => [.defined module.id template.id module.dependencies]
  | .error _ => []

/-- A registry with the templates of several modules, which are registered in order. -/
def defineAll (registry : Registry) : List Module → Except RenderError Registry
  | [] => .ok registry
  | module :: modules => do
      let registry ← registry.define module
      registry.defineAll modules

/-- The events of registering several modules, up to the first that fails. -/
def allDefinitionEvents (registry : Registry) : List Module → List Event
  | [] => []
  | module :: modules =>
      match registry.define module with
      | .ok next => registry.definitionEvents module ++ next.allDefinitionEvents modules
      | .error _ => []

/-- A call that fails changes nothing. -/
theorem register_of_error {registry : Registry} {module : Module} {error : RenderError}
    (failed : (registry.register module).1 = .error error) :
    (registry.register module).2 = registry := by
  unfold register at failed ⊢
  split at failed
  · cases failed
  · rfl

end Registry

end Stencil
