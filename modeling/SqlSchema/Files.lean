import SqlSchema.Keyed
import SqlSchema.Text.Split

/-! The files of a working directory. The directory has no subdirectories, and of what lies outside
of it only the directories above are known. -/

namespace SqlSchema

open SqlSchema.Text

inductive FileFault
  | notFound
  | notDirectory
  | isDirectory
  | nameTooLong
  | zeroInPath
  | notText
  deriving Repr, DecidableEq

def FileFault.message : FileFault → String
  | .notFound => "No such file or directory (os error 2)"
  | .notDirectory => "Not a directory (os error 20)"
  | .isDirectory => "Is a directory (os error 21)"
  | .nameTooLong => "File name too long (os error 36)"
  | .zeroInPath => "file name contained an unexpected NUL byte"
  | .notText => "stream did not contain valid UTF-8"

/-- A working directory: files under their names. -/
structure Directory where
  files : List (String × List UInt8) := []
  deriving Repr, DecidableEq

/-- Where a path leads: to a directory, to a name in the working directory, to a place behind such
a name, or outside. -/
inductive Place
  | directory
  | name (name : String)
  | behind (name : String)
  | outside
  deriving Repr, DecidableEq

/-- The most bytes of a path. -/
def longestPath : Nat := 4095

/-- The most bytes of a name within a path. -/
def longestName : Nat := 255

/-- The names in a path, those that stay where they are left out. -/
def stepsOf (parts : List (List Char)) : List (List Char) :=
  parts.filter fun part => !part.isEmpty && part != ['.']

/-- Whether a path is too long, or the first name in it that is looked up. No name behind that one
is looked up, since no other directory is known. -/
def isTooLong (path : String) : Bool :=
  longestPath < path.utf8ByteSize
    || (((stepsOf (splitAt (· == '/') path.toList)).find? (· != ['.', '.'])).any fun step =>
      longestName < (String.ofList step).utf8ByteSize)

def placeOf (path : String) : Place :=
  let parts := splitAt (· == '/') path.toList
  let steps := stepsOf parts
  let endsInDirectory := match parts.getLast? with
    | some last => last.isEmpty || last == ['.']
    | none => true
  if path.isEmpty then .outside
  else if steps.all (· == ['.', '.']) then .directory
  else if path.toList.head? == some '/' then .outside
  else match steps with
    | [step] =>
      if endsInDirectory then .behind (String.ofList step) else .name (String.ofList step)
    | step :: _ => if step == ['.', '.'] then .outside else .behind (String.ofList step)
    | [] => .directory

def Directory.read (d : Directory) (path : String) : Except FileFault (List UInt8) :=
  if path.toList.contains '\x00' then .error .zeroInPath
  else if isTooLong path then .error .nameTooLong
  else match placeOf path with
    | .directory => .error .isDirectory
    | .outside => .error .notFound
    | .behind name =>
      if Keyed.contains name d.files then .error .notDirectory else .error .notFound
    | .name name =>
      match Keyed.get? name d.files with
      | some content => .ok content
      | none => .error .notFound

end SqlSchema
