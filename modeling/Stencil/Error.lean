import Stencil.Json.Printer
import Stencil.Json.SyntaxError
import Stencil.Text.Quoted

/-!
# What can go wrong with a rendering

A `RenderError` is the cause of a failed operation. `message` is its wording, and `reasons` are the
messages of the errors behind it.
-/

namespace Stencil

/-- What a loop says about a value that is not an array. -/
structure Complaint where
  /-- The wording. -/
  text : String
  /-- The wording is followed by the value as compact JSON. -/
  showsValue : Bool := false
  deriving DecidableEq, Repr

/-- The cause of a failed operation. -/
inductive RenderError where
  /-- The text of a context is no JSON. -/
  | malformedContext (error : Json.SyntaxError)
  /-- The text of globals is no JSON. -/
  | malformedGlobals (error : Json.SyntaxError)
  /-- A text that stands for a JSON value is no JSON. -/
  | malformedJson (error : Json.SyntaxError)
  /-- A context or globals are a JSON value other than an object. -/
  | notAnObject (value : Json)
  /-- A name is neither in the context nor in the globals. -/
  | nameNotFound (name : String)
  /-- No def of this name is bound. -/
  | defNotFound (name : String)
  /-- There is no document to insert into; the name of the placement. -/
  | hostMissing (placement : String)
  /-- No template is registered under an identifier. -/
  | templateNotFound (id : String)
  /-- A template is already registered under an identifier. -/
  | duplicateTemplate (id : String)
  /-- A body, a template's construction or a host gave up with a message of its own. -/
  | raised (message : String)
  /-- A def was called with too few arguments. -/
  | missingArgument (index : Nat)
  /-- A body uses a template that its module does not depend on. -/
  | missingDependency (index : Nat)
  /-- A body uses the current item outside of a loop. -/
  | noCurrentItem
  /-- A loop was given something else than an array. -/
  | notAnArray (complaint : Complaint) (value : Json)
  /-- Attributes were to be taken from something else than an object. -/
  | attributesNotAnObject
  /-- The variables of a rendering are something else than an object. -/
  | varsNotAnObject (value : Json)
  /-- Calls are nested more deeply than the caller allows. -/
  | callsTooDeep

namespace RenderError

/-- The wording of an error. -/
def message : RenderError → String
  | .malformedContext error => "malformed context JSON: " ++ error.message
  | .malformedGlobals error => "malformed globals JSON: " ++ error.message
  | .malformedJson error => error.message
  | .notAnObject value => "expected a JSON object, got: " ++ value.compact
  | .nameNotFound name =>
      "name " ++ Text.quote name ++ " is neither in the context nor in the globals"
  | .defNotFound name => "no def " ++ Text.quote name ++ " bound in scope"
  | .hostMissing placement => placement ++ ": no host DOM available"
  | .templateNotFound id => "template " ++ Text.quote id ++ " is not defined"
  | .duplicateTemplate id => "template " ++ Text.quote id ++ " is already defined"
  | .raised message => message
  | .missingArgument index => "missing argument " ++ toString index
  | .missingDependency index => "missing dependency " ++ toString index
  | .noCurrentItem => "no current item"
  | .notAnArray complaint value =>
      complaint.text ++ if complaint.showsValue then value.compact else ""
  | .attributesNotAnObject => "attrs_json: not an object"
  | .varsNotAnObject value => "vars must be an object, got: " ++ value.compact
  | .callsTooDeep => "calls are nested too deeply"

/-- The messages of the errors behind an error, the nearest first. -/
def reasons : RenderError → List String
  | .malformedContext error | .malformedGlobals error => [error.message]
  | _ => []

end RenderError

end Stencil
