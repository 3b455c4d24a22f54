import Stencil.Environment
import Stencil.Event
import Stencil.Files
import Stencil.Scope

/-!
# Settings of a run

Three environment variables decide whether unknown names are errors, which file holds the globals,
and whether a trace is shown.
-/

namespace Stencil

/-- The settings of a run. -/
structure Settings where
  /-- Unknown names are errors. -/
  strict : Bool := false
  /-- The path of a file that holds the globals as a JSON object. -/
  globalsPath : Option String := none
  /-- A trace is shown. -/
  trace : Bool := false
  deriving DecidableEq, Repr

/-- Why settings or the globals they name cannot be used. -/
inductive SettingsError where
  /-- An environment variable cannot be used. -/
  | environment (error : EnvironmentError)
  /-- The file of the globals cannot be read. -/
  | unreadable (path : String) (error : FileError)
  /-- The file of the globals holds no JSON object. -/
  | invalidGlobals (path : String) (error : RenderError)

namespace SettingsError

/-- The wording of an error. -/
def message : SettingsError → String
  | .environment error => error.message
  | .unreadable path _ => "opening path for reading: " ++ Text.quote path
  | .invalidGlobals path _ => "globals file " ++ Text.quote path

/-- The messages of the errors behind an error, the nearest first. -/
def reasons : SettingsError → List String
  | .environment _ => []
  | .unreadable _ error => [error.message]
  | .invalidGlobals _ error => error.message :: error.reasons

end SettingsError

namespace Settings

/-- The variable that asks for strict lookups. -/
def strictVariable : String := "TKRENDER_STRICT"

/-- The variable that names the file of the globals. -/
def globalsVariable : String := "TKRENDER_GLOBALS"

/-- The variable that asks for a trace. -/
def traceVariable : String := "TKRENDER_TRACE"

/-- The settings that an environment asks for. The first variable that is wrong is an error. -/
def read (environment : Environment) : Except EnvironmentError Settings := do
  let strict ← environment.bool? strictVariable
  let globalsPath ← environment.text? globalsVariable
  let trace ← environment.bool? traceVariable
  return { strict := strict.getD false, globalsPath, trace := trace.getD false }

/-- What lookups do about unknown names. -/
def policy (settings : Settings) : Policy :=
  if settings.strict then .strict else .lenient

/-- The event of starting a run. -/
def event (settings : Settings) : Event :=
  .started settings.strict settings.globalsPath settings.trace

/-- The globals, which are empty if no file is named. -/
def loadGlobals (settings : Settings) (readFile : FileReader) :
    Except SettingsError (Table Json) :=
  match settings.globalsPath with
  | none => .ok ∅
  | some path =>
      match readFile path with
      | .error error => .error (.unreadable path error)
      | .ok text => (Scope.readGlobals text).mapError (.invalidGlobals path)

end Settings

end Stencil
