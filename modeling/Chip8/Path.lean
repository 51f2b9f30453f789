/-!
# Paths

A path names its parts from left to right, separated by slashes.  Empty parts and single dots
say nothing and are left out; a double dot is a part.  The last part is the name of a file, and that
without its extension is the name of a program.
-/

namespace Chip8
namespace Path

/-- The parts of a path that say something. -/
def parts (path : String) : List String :=
  ((path.toList.splitOn '/').map String.ofList).filter fun part => part != "" && part != "."

/-- The last part of a path. -/
def fileName (path : String) : String :=
  (parts path).getLast?.getD ""

/-- The characters behind the last dot, if there is a dot. -/
def extension? (name : List Char) : Option (List Char) :=
  if '.' ∈ name then some (name.reverse.takeWhile (· ≠ '.')).reverse else none

/-- The last part of a path without its extension.  A name that only begins or ends with its
last dot has no extension. -/
def stem (path : String) : String :=
  let name := (fileName path).toList
  match extension? name with
  | none => String.ofList name
  | some extension =>
    let kept := name.take (name.length - extension.length - 1)
    if kept.isEmpty || extension.isEmpty then String.ofList name else String.ofList kept

end Path
end Chip8
