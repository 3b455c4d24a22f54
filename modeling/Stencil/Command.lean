import Stencil.Arguments
import Stencil.Builtin
import Stencil.Settings

/-!
# The command line

The command renders a builtin template over a context given as an argument and prints the result.
Its arguments are read first, by whatever parser it is given. Then the stages of a run follow in a
fixed order, and the first that fails decides the outcome; nothing is printed but on success.
-/

namespace Stencil

/-- Settings with what the arguments ask for. -/
def Arguments.adjust (arguments : Arguments) (settings : Settings) : Settings :=
  { strict := settings.strict || arguments.strict
    globalsPath := arguments.globals <|> settings.globalsPath
    trace := settings.trace || arguments.trace }

/-- Why a run of the command failed. -/
inductive Failure where
  /-- The settings, or the globals they name, cannot be used. -/
  | settings (error : SettingsError)
  /-- The context, the template or its rendering failed. -/
  | render (error : RenderError)

namespace Failure

/-- The wording of a failure. -/
def message : Failure → String
  | .settings error => error.message
  | .render error => error.message

/-- The messages of the errors behind a failure, the nearest first. -/
def reasons : Failure → List String
  | .settings error => error.reasons
  | .render error => error.reasons

/-- Reasons one on a line, with their numbers. -/
def numbered : Nat → List String → String
  | _, [] => ""
  | number, reason :: rest =>
      let digits := toString number
      String.ofList (List.replicate (5 - digits.length) ' ') ++ digits ++ ": " ++ reason ++ "\n" ++
        numbered (number + 1) rest

/-- The report of a failure: its message, and the reasons for it. -/
def report (failure : Failure) : String :=
  "Error: " ++ failure.message ++ "\n" ++
    match failure.reasons with
    | [] => ""
    | [reason] => "\nCaused by:\n    " ++ reason ++ "\n"
    | reasons => "\nCaused by:\n" ++ numbered 0 reasons

end Failure

namespace Command

/-- A step of a run of the command: it notes events and may fail. -/
abbrev Stage (α : Type) := ExceptT Failure (StateM (List Event)) α

/-- Notes events. -/
def note (events : List Event) : Stage Unit :=
  modify (· ++ events)

/-- A step that may fail for a reason of its kind. -/
def attempt {ε α : Type} (failure : ε → Failure) (result : Except ε α) : Stage α :=
  match result with
  | .ok value => pure value
  | .error error => throw (failure error)

/-- The template to be rendered; if there is none, the known ones are told. -/
def loadTemplate (registry : Registry) (id : String) : Stage Template :=
  match registry.load id with
  | .ok template => pure template
  | .error error => do
      note [.knownTemplates registry.ids]
      throw (.render error)

/-- Renders a template in a scope. -/
def renderIn (template : Template) (scope : Scope) : Stage String := do
  note (template.bindingEvents scope)
  match (template.bind scope).render Builtin.depth with
  | none => throw (.render .callsTooDeep)
  | some run => do
      note run.events
      attempt .render run.outcome

/-- The stages of a run under given settings. -/
def stages (arguments : Arguments) (settings : Settings) (readFile : FileReader) :
    Stage String := do
  note [settings.event]
  let globals ← attempt .settings (settings.loadGlobals readFile)
  let scope ← attempt .render (Scope.read arguments.context globals)
  let registry ← attempt .render Builtin.registry
  note Builtin.registryEvents
  let template ← loadTemplate registry arguments.template
  renderIn template { scope with policy := settings.policy }

/-- What a run of the command leaves behind. -/
structure Report where
  /-- The exit code. -/
  exitCode : Nat
  /-- What is printed. -/
  output : String := ""
  /-- The events that are shown. -/
  events : List Event := []
  /-- What made the run fail. -/
  failure : Option Failure := none
  /-- What is printed about the failure, apart from the output and behind the events. -/
  errorText : String := ""

/-- The report of a run that ended with a text or a failure. -/
def Report.ofOutcome (events : List Event) : Except Failure String → Report
  | .ok html => { exitCode := 0, output := html ++ "\n", events }
  | .error failure =>
      { exitCode := 1, events, failure := some failure, errorText := failure.report }

/-- Runs the command with arguments that keep to its usage. -/
def run (arguments : Arguments) (environment : Environment) (readFile : FileReader) : Report :=
  match Settings.read environment with
  | .error error => .ofOutcome [] (.error (.settings (.environment error)))
  | .ok settings =>
      let settings := arguments.adjust settings
      let (outcome, events) := (stages arguments settings readFile).run.run []
      .ofOutcome (Event.shown settings.trace events) outcome

/--
Runs the command. Arguments that ask for help or break the usage end it before anything else: help
is printed, and a breach of the usage is told as an error.
-/
def execute (parser : ArgumentParser) (arguments : List ByteArray) (environment : Environment)
    (readFile : FileReader) : Report :=
  match parser arguments with
  | .accepted arguments => run arguments environment readFile
  | .help text => { exitCode := 0, output := text }
  | .refused text => { exitCode := 2, errorText := text }

end Command

end Stencil
