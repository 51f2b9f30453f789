import Chip8.Fault
import Chip8.Instruction.Decode
import Chip8.Keypad
import Chip8.Traced

/-!
# The log

Everything that the machine and its host put on record is a `Log.Entry`: a constructor for each
kind of event with its particulars.  The level at which an event is recorded, the part of the
system that it comes from and its wording are functions of the entry, so that statements about a
run speak of events and not of texts.
-/

namespace Chip8
namespace Log

/-- How much an entry matters, from least to most. -/
inductive Level where
  | debug
  | info
  | warning
  | error
  deriving DecidableEq, Repr, Inhabited

namespace Level

/-- Every level, from least to most. -/
def all : List Level :=
  [debug, info, warning, error]

def name : Level → String
  | debug => "DEBUG"
  | info => "INFO"
  | warning => "WARNING"
  | error => "ERROR"

/-- The place of a level in the order of levels. -/
def rank : Level → Nat
  | debug => 0
  | info => 1
  | warning => 2
  | error => 3

/-- The level with a given name. -/
def ofName? (name : String) : Option Level :=
  all.find? (·.name == name)

end Level

/-- The part of the system that an entry comes from. -/
inductive Source where
  | cpu
  | memory
  | device
  | frontend
  deriving DecidableEq, Repr

namespace Source

def name : Source → String
  | cpu => "chip8vm.cpu"
  | memory => "chip8vm.memory"
  | device => "chip8vm.device"
  | frontend => "chip8vm.frontend"

end Source

/-- An event on record. -/
inductive Entry where
  /-- The instruction fetched from `pc` is about to run. -/
  | fetched (pc : Int) (instruction : Instruction)
  /-- The return at `address` found the stack empty. -/
  | returnIgnored (address : Int)
  /-- The word at `address` is no instruction. -/
  | unknownSkipped (word : Word) (address : Int)
  /-- A key press ended a wait. -/
  | keyStored (key : Key) (register : Register)
  | romCopied (size : Nat) (address : Int)
  /-- A start was refused because of an earlier fault. -/
  | startRefused (fault : Fault)
  | startedWithoutRom
  | started
  | reset
  | romLoaded (size : Nat)
  | faulted (fault : Fault)
  /-- The host was told of a word that is no instruction. -/
  | unknownReported (word : Word)
  | audioDisabled (reason : String)
  deriving DecidableEq, Repr

namespace Entry

def level : Entry → Level
  | fetched .. | keyStored .. | romCopied .. | unknownReported .. => .debug
  | started | reset | romLoaded .. => .info
  | returnIgnored .. | unknownSkipped .. | startRefused .. | startedWithoutRom
  | audioDisabled .. => .warning
  | faulted .. => .error

def source : Entry → Source
  | fetched .. | returnIgnored .. | unknownSkipped .. | keyStored .. => .cpu
  | romCopied .. => .memory
  | startRefused .. | startedWithoutRom | started | reset | romLoaded .. | faulted .. => .device
  | unknownReported .. | audioDisabled .. => .frontend

/-- The entry in words. -/
def text : Entry → String
  | fetched pc instruction =>
    "$" ++ Hex.padded 3 pc ++ ": " ++ Hex.padded 4 instruction.encode ++ " " ++ instruction.mnemonic
  | returnIgnored address => "RET with empty stack at $" ++ Hex.padded 3 address ++ " ignored"
  | unknownSkipped word address =>
    "Unknown opcode $" ++ Hex.padded 4 word.val ++ " at $" ++ Hex.padded 3 address ++ " skipped"
  | keyStored key register =>
    "Key " ++ key.label ++ " stored in V" ++ Hex.padded 1 register.val ++ ", resuming"
  | romCopied size address =>
    "Copied " ++ toString size ++ " ROM bytes to $" ++ Hex.padded 3 address
  | startRefused fault => "Not starting, device halted by a fault: " ++ fault.message
  | startedWithoutRom => "Starting without a ROM loaded"
  | started => "Device started"
  | reset => "Device reset"
  | romLoaded size => "Loaded " ++ toString size ++ " byte ROM"
  | faulted fault => "Machine fault, stopping: " ++ fault.message
  | unknownReported word => "Skipped unknown opcode $" ++ Hex.padded 4 word.val
  | audioDisabled reason => "Audio disabled: " ++ reason

end Entry
end Log

/-- A value and the log entries that were made on the way to it. -/
abbrev Logged := Traced Log.Entry

end Chip8
