import Stencil.Text.Blank
import Stencil.Text.Quoted

/-!
# Environment variables

The value of a variable is a sequence of bytes. It is read as text, which fails if the bytes are no
UTF-8, or as a truth value, for which a few words are accepted.
-/

namespace Stencil

/-- The values of the variables that are set. -/
abbrev Environment := String → Option ByteArray

/-- Why a variable cannot be used. -/
inductive EnvironmentError where
  /-- The value is no UTF-8. -/
  | notUnicode (name : String)
  /-- The variable is not set, and there is nothing to use in its place. -/
  | missing (name : String)
  /-- The value is no truth value. -/
  | notBoolean (name value : String)
  deriving DecidableEq, Repr

/-- The wording of an error. -/
def EnvironmentError.message : EnvironmentError → String
  | .notUnicode name => Text.quote name ++ " env var is not unicode"
  | .missing name => Text.quote name ++ " env var is missing and no default provided"
  | .notBoolean name value =>
      Text.quote name ++ " env var must be a boolean, got " ++ Text.quote value

/-- The truth value that a word stands for, with white space around it ignored. -/
def parseBool (text : String) : Option Bool :=
  let word := Text.trim text
  if ["1", "true", "yes", "on"].contains word then some true
  else if ["", "0", "false", "no", "off"].contains word then some false
  else none

namespace Environment

/-- The text of a variable, if it is set. -/
def text? (environment : Environment) (name : String) :
    Except EnvironmentError (Option String) :=
  match environment name with
  | none => .ok none
  | some bytes =>
      match String.fromUTF8? bytes with
      | some text => .ok (some text)
      | none => .error (.notUnicode name)

/-- The text of a variable, or what is to be used if it is not set. -/
def textOr (environment : Environment) (name : String) (fallback : Option String) :
    Except EnvironmentError String := do
  match ← environment.text? name, fallback with
  | some text, _ => return text
  | none, some text => return text
  | none, none => throw (.missing name)

/-- The truth value of a variable, if it is set. -/
def bool? (environment : Environment) (name : String) :
    Except EnvironmentError (Option Bool) := do
  match ← environment.text? name with
  | none => return none
  | some text =>
      match parseBool text with
      | some value => return some value
      | none => throw (.notBoolean name text)

end Environment

end Stencil
