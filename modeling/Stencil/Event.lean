import Stencil.Text.Quoted

/-!
# What is worth telling about a run

Events are noted in the order in which they happen. Most belong to a trace, which is shown only on
request; a warning is always shown.
-/

namespace Stencil

/-- Something that happened during a run. -/
inductive Event where
  /-- The run was started with these settings. -/
  | started (strict : Bool) (globalsPath : Option String) (trace : Bool)
  /-- A template was registered. -/
  | defined (id template : String) (dependencies : List String)
  /-- A lookup found nothing and gave no value. -/
  | unresolved (name : String)
  /-- A template's def was left out, as another one is bound under its name. -/
  | alreadyBound (template name : String)
  /-- Defs of a template were made available to a caller. -/
  | imported (count : Nat) (template : String)
  /-- The entry point of a template starts to run. -/
  | rendering (template : String)
  /-- A template was asked for that is none of these. -/
  | knownTemplates (ids : List String)
  deriving DecidableEq, Repr

namespace Event

/-- Whether an event is shown without being asked for. -/
def isWarning : Event → Bool
  | .knownTemplates _ => true
  | _ => false

/-- A truth value as settings show it. -/
def showBool (value : Bool) : String :=
  if value then "true" else "false"

/-- The wording of an event. -/
def text : Event → String
  | .started strict globalsPath trace =>
      "Config \x7b strict: " ++ showBool strict ++
        ", globals_path: " ++ Text.quoteOption globalsPath ++
        ", trace: " ++ showBool trace ++ " \x7d"
  | .defined id template dependencies =>
      "defined " ++ Text.quote id ++ " (template " ++ Text.quote template ++
        ") with dependencies " ++ Text.quoteList dependencies
  | .unresolved name => "unresolved name " ++ Text.quote name ++ ", using undefined"
  | .alreadyBound template name =>
      template ++ ": def " ++ Text.storedName name ++ " already bound, keeping it"
  | .imported count template =>
      "imported " ++ toString count ++ " defs from " ++ Text.quote template
  | .rendering template => "rendering " ++ Text.storedName template
  | .knownTemplates ids => "known templates: " ++ ", ".intercalate ids

/-- The wording of an event with the mark of its kind before it. -/
def line (event : Event) : String :=
  (if event.isWarning then "W: " else "T: ") ++ event.text

/-- What is shown of the events of a run: the warnings, and with a trace all of them. -/
def shown (trace : Bool) (events : List Event) : List Event :=
  events.filter fun event => trace || event.isWarning

end Event

end Stencil
