import Stencil.Table

/-!
# Reading files

A path is a walk from the current directory, one component at a time, and the first component that
cannot be followed decides the error. `Directory.read` is such a walk in a directory that holds
plain files only.
-/

namespace Stencil

/-- Why a file cannot be read. -/
inductive FileError where
  /-- A component of the path does not exist. -/
  | notFound
  /-- The path leads to a directory. -/
  | isDirectory
  /-- A component of the path is looked for in a file. -/
  | notDirectory
  /-- A component of the path, or all of it, is longer than any name. -/
  | nameTooLong
  /-- The content is no UTF-8. -/
  | notUnicode
  deriving DecidableEq, Repr

/-- The wording of an error. -/
def FileError.message : FileError → String
  | .notFound => "No such file or directory (os error 2)"
  | .isDirectory => "Is a directory (os error 21)"
  | .notDirectory => "Not a directory (os error 20)"
  | .nameTooLong => "File name too long (os error 36)"
  | .notUnicode => "stream did not contain valid UTF-8"

/-- The text of every readable file. -/
abbrev FileReader := String → Except FileError String

/-- The components of a path. -/
def components : List Char → List (List Char)
  | [] => [[]]
  | char :: rest =>
      if char = '/' then [] :: components rest
      else match components rest with
        | component :: others => (char :: component) :: others
        | [] => [[char]]

/-- A directory that holds plain files. -/
abbrev Directory := Table ByteArray

namespace Directory

/-- Where a walk stands. -/
inductive Location where
  /-- In the current directory. -/
  | here
  /-- In a directory outside of it, of which nothing but its parents is known. -/
  | outside
  /-- At a file. -/
  | file (content : ByteArray)

/-- Follows one component of a path. -/
def step (directory : Directory) (location : Location) (component : String) :
    Except FileError Location :=
  match location with
  | .file _ => .error .notDirectory
  | .here =>
      if component = "" || component = "." then .ok .here
      else if component = ".." then .ok .outside
      else if 255 < component.utf8ByteSize then .error .nameTooLong
      else match directory.get? component with
        | some content => .ok (.file content)
        | none => .error .notFound
  | .outside =>
      if component = "" || component = "." || component = ".." then .ok .outside
      else if 255 < component.utf8ByteSize then .error .nameTooLong
      else .error .notFound

/-- Follows the components of a path. -/
def walk (directory : Directory) : Location → List String → Except FileError Location
  | location, [] => .ok location
  | location, component :: rest => do
      directory.walk (← directory.step location component) rest

/-- The text of the file that a path leads to. -/
def read (directory : Directory) : FileReader := fun path => do
  if path = "" then throw .notFound
  if 4096 ≤ path.utf8ByteSize then throw .nameTooLong
  let start := if path.toList.head? = some '/' then Location.outside else Location.here
  match ← directory.walk start ((components path.toList).map String.ofList) with
  | .file content =>
      match String.fromUTF8? content with
      | some text => return text
      | none => throw .notUnicode
  | _ => throw .isDirectory

end Directory

end Stencil
