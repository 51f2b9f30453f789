import Chip8.Fault
import Chip8.Memory

/-!
# Programs

A `Rom` is the image of a program that fits into a standard machine, between `programStart` and
the end of memory.  What is too large is no `Rom`.
-/

namespace Chip8

/-- The bytes of a program that fits into a standard machine. -/
structure Rom where
  bytes : List UInt8
  fits : bytes.length ≤ maxRomSize

namespace Rom

/-- The number of bytes. -/
def size (rom : Rom) : Nat :=
  rom.bytes.length

/-- Takes bytes as a program, unless there are too many. -/
def ofBytes (data : List UInt8) : Except Error Rom :=
  if h : data.length ≤ maxRomSize then .ok ⟨data, h⟩
  else .error (.romTooLarge data.length maxRomSize)

end Rom
end Chip8
