import Chip8.Text.Detail
import Chip8.Text.Hex

/-!
# Faults and errors

A `Fault` is raised by a running program that asks for something the machine cannot carry out.
It names a cause and, once the instruction is known, the address of that instruction.  An
`Error` is the refusal of a request that comes from outside the machine; a fault counts as one
when it is handed to the outside.  Each cause is a constructor, and the wording is in one
function for each type.
-/

namespace Chip8

/-- What a program did that the machine cannot carry out. -/
inductive FaultCause where
  /-- An access to an address outside memory. -/
  | outOfRange (address : Int)
  /-- A call with `depth` return addresses on the stack already. -/
  | stackOverflow (depth : Int)
  /-- Any other cause, in words. -/
  | other (text : String)
  deriving DecidableEq, Repr, Inhabited

namespace FaultCause

/-- The words for a stack overflow at a depth. -/
def stackOverflowText (depth : Detail) : String :=
  "Stack overflow at depth " ++ depth.plain

/-- The cause in words. -/
def message : FaultCause → String
  | outOfRange address => "Memory access out of range: $" ++ Hex.padded 4 address
  | stackOverflow depth => stackOverflowText (.number depth)
  | other text => text

end FaultCause

/-- A cause together with the address of the instruction at fault, where it is known. -/
structure Fault where
  cause : FaultCause
  pc : Option Int
  deriving DecidableEq, Repr, Inhabited

namespace Fault

/-- The fault in words, with the address of the instruction in brackets if it is known. -/
def message (fault : Fault) : String :=
  match fault.pc with
  | none => fault.cause.message
  | some pc => fault.cause.message ++ " (PC=$" ++ Hex.padded 3 pc ++ ")"

end Fault

/-- Why a request from outside the machine is refused. -/
inductive Error where
  | fault (fault : Fault)
  /-- A ROM of `size` bytes, where at most `limit` fit. -/
  | romTooLarge (size limit : Int)
  /-- A font at `offset` would not lie within memory. -/
  | fontOutside (offset : Int)
  | invalidKey (id : Int)
  | unknownProfile (name : String)
  | negativeCycles
  | frameRateNotPositive
  | stackSizeNotPositive
  /-- The path names no file. -/
  | romNotFound (path : String)
  | romEmpty (path : String)
  /-- The file system does not hand a file out, for a reason in its own words. -/
  | unreadable (complaint : String)
  /-- A screen without pixels has no coordinates. -/
  | emptyScreen
  | other (text : String)
  deriving DecidableEq, Repr, Inhabited

namespace Error

/-- The words for a ROM of a size, where at most `limit` bytes fit. -/
def romTooLargeText (size limit : Detail) : String :=
  "ROM is " ++ size.plain ++ " bytes, at most " ++ limit.plain ++ " fit in memory"

/-- The error in words. -/
def message : Error → String
  | fault f => f.message
  | romTooLarge size limit => romTooLargeText (.number size) (.number limit)
  | fontOutside offset => "Font at $" ++ Hex.padded 3 offset ++ " does not fit in memory"
  | invalidKey id => "Invalid key id: " ++ toString id
  | unknownProfile name => "Unknown quirk profile: " ++ name
  | negativeCycles => "cycles_per_frame must not be negative"
  | frameRateNotPositive => "frame_rate must be positive"
  | stackSizeNotPositive => "stack_size must be positive"
  | romNotFound path => "ROM not found: " ++ path
  | romEmpty path => "ROM file is empty: " ++ path
  | unreadable complaint => complaint
  | emptyScreen => "the screen has no pixels"
  | other text => text

/-- An error whose message is made of details. -/
def ofDetails (details : List Detail) : Error :=
  other (Detail.message details)

/-- Whether the error is a fault of the machine. -/
def isFault : Error → Bool
  | fault _ => true
  | _ => false

end Error
end Chip8
