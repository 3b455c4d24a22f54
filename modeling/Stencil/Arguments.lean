/-!
# Arguments of the command

The command is used with the identifier of a template and a context, among which options may stand.
What it makes of its arguments is up to an `ArgumentParser`: the arguments are accepted, or they ask
for help, or they break the usage. `Arguments.parse` is the parser of the program.
-/

namespace Stencil

/-- The arguments of the command. -/
structure Arguments where
  /-- The identifier of the template. -/
  template : String
  /-- The context, as JSON text. -/
  context : String
  /-- Unknown names are errors. -/
  strict : Bool := false
  /-- The path of a file that holds the globals. -/
  globals : Option String := none
  /-- A trace is shown. -/
  trace : Bool := false
  deriving DecidableEq, Repr

/-- What is made of the arguments that the command is started with. -/
inductive Parsed where
  /-- They keep to the usage. -/
  | accepted (arguments : Arguments)
  /-- They ask for help, which is this text. -/
  | help (text : String)
  /-- They break the usage, which is told by this text. -/
  | refused (text : String)
  deriving DecidableEq, Repr

/-- What is made of arguments, each of which is a sequence of bytes. -/
abbrev ArgumentParser := List ByteArray → Parsed

namespace Arguments

/-- How the command is used. -/
def usage : String :=
  "Usage: stencil [--strict] [--trace] [--globals FILE] TEMPLATE CONTEXT\n"

/-- What was given so far. Whether it keeps to the usage is told once all arguments are read. -/
structure Gathered where
  /-- The positional arguments, in order. -/
  positional : List ByteArray := []
  /-- How often the option for strict lookups was given. -/
  strict : Nat := 0
  /-- How often the option for a trace was given. -/
  trace : Nat := 0
  /-- What followed the option for the globals each time it was given, if it can be a path. -/
  globals : List (Option ByteArray) := []

namespace Gathered

/-- One more positional argument. -/
def push (seen : Gathered) (argument : ByteArray) : Gathered :=
  { seen with positional := seen.positional ++ [argument] }

/-- The option for the globals once more, with what followed it. -/
def pushGlobals (seen : Gathered) (path : Option ByteArray) : Gathered :=
  { seen with globals := seen.globals ++ [path] }

/-- The path of the globals; the option may be given once, with a path that is a text. -/
def globalsPath? (seen : Gathered) : Option (Option String) :=
  match seen.globals with
  | [] => some none
  | [some path] => (String.fromUTF8? path).map some
  | _ => none

/-- The arguments of the command: two texts, and each option once at most. -/
def arguments? (seen : Gathered) : Option Arguments :=
  match seen.positional.mapM String.fromUTF8?, seen.globalsPath? with
  | some [template, context], some globals =>
      if seen.strict ≤ 1 ∧ seen.trace ≤ 1 then
        some { template, context, strict := seen.strict = 1, globals, trace := seen.trace = 1 }
      else none
  | _, _ => none

/-- What is made of all arguments together. -/
def finish (seen : Gathered) : Parsed :=
  match seen.arguments? with
  | some arguments => .accepted arguments
  | none => .refused usage

end Gathered

/-- What follows a sequence of bytes at the front of another. -/
def afterFront? : List UInt8 → List UInt8 → Option (List UInt8)
  | [], rest => some rest
  | _ :: _, [] => none
  | expected :: more, byte :: rest => if expected = byte then afterFront? more rest else none

/-- What follows a text at the front of an argument. -/
def behind? (text : String) (argument : ByteArray) : Option ByteArray :=
  (afterFront? text.toUTF8.data.toList argument.data.toList).map fun rest => ⟨rest.toArray⟩

/-- Whether an argument is written like an option; a lone dash is not. -/
def looksLikeOption (argument : ByteArray) : Bool :=
  (behind? "-" argument).any fun rest => rest.size ≠ 0

/--
Reads arguments from left to right. A request for help is met as soon as it is read, and an unknown
option or a third positional argument ends the reading at once. Behind a double dash all arguments
are positional.
-/
def scan (seen : Gathered) : List ByteArray → Parsed
  | [] => seen.finish
  | argument :: rest =>
      if argument = "--".toUTF8 then (rest.foldl Gathered.push seen).finish
      else if argument = "--help".toUTF8 || (behind? "-h" argument).isSome then .help usage
      else if argument = "--strict".toUTF8 then scan { seen with strict := seen.strict + 1 } rest
      else if argument = "--trace".toUTF8 then scan { seen with trace := seen.trace + 1 } rest
      else if argument = "--globals".toUTF8 then
        match rest with
        | [] => (seen.pushGlobals none).finish
        | path :: more =>
            if looksLikeOption path then scan (seen.pushGlobals none) (path :: more)
            else scan (seen.pushGlobals (some path)) more
      else match behind? "--globals=" argument with
        | some path => scan (seen.pushGlobals (some path)) rest
        | none =>
            if looksLikeOption argument || seen.positional.length = 2 then .refused usage
            else scan (seen.push argument) rest

/-- What the program makes of its arguments. -/
def parse : ArgumentParser :=
  scan {}

end Arguments

end Stencil
