import Chip8.Fault

/-!
# Files of programs

A program comes from a file that is not empty.  Whether it fits into a machine is a question for
the machine.  What a path leads to is the file system's affair, and `Found` is all that the command
learns of it.
-/

namespace Chip8

/-- What the file system has to say of a path. -/
inductive Found where
  | file (data : List UInt8)
  /-- There is no file: nothing at all, or a directory. -/
  | missing
  /-- The file system does not look the path up, or does not hand the file out, and says why. -/
  | unreadable (complaint : String)
  deriving DecidableEq, Repr

namespace RomFile

/-- The bytes of a program by what its path leads to. -/
def read (path : String) : Found → Except Error (List UInt8)
  | .missing => .error (.romNotFound path)
  | .unreadable complaint => .error (.unreadable complaint)
  | .file [] => .error (.romEmpty path)
  | .file data => .ok data

end RomFile
end Chip8
