import Stencil.Command

/-!
# The program

Collects what the command needs from the outside, runs it, and prints its report.
-/

namespace Stencil

namespace Program

/-- The text of a file, or why it cannot be read. -/
def readTextFile (path : String) : IO (Except FileError String) := do
  try
    match String.fromUTF8? (← IO.FS.readBinFile path) with
    | some text => return .ok text
    | none => return .error .notUnicode
  catch error =>
    match error with
    | .inappropriateType _ _ _ => return .error .isDirectory
    | .resourceExhausted _ _ _ => return .error .nameTooLong
    | _ => return .error .notFound

/-- The variables that the settings are read from. -/
def readVariables : IO Environment := do
  let names := [Settings.strictVariable, Settings.globalsVariable, Settings.traceVariable]
  let values ← names.mapM fun name => do
    return (name, (← IO.getEnv name).map String.toUTF8)
  return fun name => (values.lookup name).join

/-- What the file of the globals holds, if the arguments and the environment name one. -/
def readGlobalsFile (arguments : List ByteArray) (environment : Environment) :
    IO FileReader := do
  match Arguments.parse arguments, Settings.read environment with
  | .accepted arguments, .ok settings =>
      match (arguments.adjust settings).globalsPath with
      | some path => do
          let result ← readTextFile path
          return fun _ => result
      | none => return fun _ => .error .notFound
  | _, _ => return fun _ => .error .notFound

end Program

end Stencil

open Stencil Program

/-- Runs the command. -/
def main (texts : List String) : IO UInt32 := do
  let arguments := texts.map String.toUTF8
  let environment ← readVariables
  let readFile ← readGlobalsFile arguments environment
  let report := Command.execute Arguments.parse arguments environment readFile
  for event in report.events do
    IO.eprintln event.line
  IO.eprint report.errorText
  IO.print report.output
  return report.exitCode.toUInt32
