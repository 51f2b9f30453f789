import Chip8.Dialect
import Chip8.Keypad
import Chip8.Memory
import Chip8.Screen
import Chip8.Twister

/-!
# The machine's state

A `Machine` is everything that an instruction can read or change: the registers, timers and
stack of its `Cpu`, the memory, the screen, the keypad and the source of random bytes.  `Rules`
is what stays fixed while a program runs: the dialect and the depth of the stack.

Registers, the program counter, the index, the timers and the return addresses are integers.
Programs by themselves keep the registers to bytes.  But a host may put any number into a timer,
from where it comes into a register, and most instructions do not cut their results to size.
-/

namespace Chip8

/-- The values of V0 to VF. -/
abbrev Registers := Vector Int 16

/-- The registers, the stack and the timers. -/
structure Cpu where
  registers : Registers
  index : Int
  pc : Int
  /-- Return addresses, the latest first. -/
  stack : List Int
  delay : Int
  sound : Int
  /-- The program waits for a key press. -/
  awaitingKey : Bool
  /-- The register that receives the key when a wait ends, or that received it when the last one
  did. -/
  keyRegister : Register
  deriving DecidableEq, Repr

namespace Cpu

/-- The state in which a program begins. -/
def initial : Cpu where
  registers := Vector.replicate 16 0
  index := 0
  pc := programStart
  stack := []
  delay := 0
  sound := 0
  awaitingKey := false
  keyRegister := .first

instance : Inhabited Cpu := ⟨initial⟩

/-- The value of a register. -/
def get (cpu : Cpu) (r : Register) : Int :=
  cpu.registers[r]

/-- Puts a value into a register. -/
def set (cpu : Cpu) (r : Register) (value : Int) : Cpu :=
  { cpu with registers := cpu.registers.set r value }

/-- The values of the registers from V0 to `last`. -/
def upTo (cpu : Cpu) (last : Register) : List Int :=
  cpu.registers.toList.take (last.val + 1)

/-- Puts values into the registers from V0 on, as many as there are of both. -/
def load (cpu : Cpu) (values : List Int) : Cpu :=
  { cpu with registers := Vector.ofFn fun r => values[r.val]?.getD (cpu.get r) }

/-- A timer one frame later. -/
def countDown (timer : Int) : Int :=
  if 0 < timer then timer - 1 else timer

/-- Both timers one frame later. -/
def tickTimers (cpu : Cpu) : Cpu :=
  { cpu with delay := countDown cpu.delay, sound := countDown cpu.sound }

@[simp] theorem get_set (cpu : Cpu) (r other : Register) (value : Int) :
    (cpu.set r value).get other = if other = r then value else cpu.get other := by
  simp only [get, set, Fin.getElem_fin, Vector.getElem_set, Fin.ext_iff]
  by_cases h : r.val = other.val
  · simp [h]
  · simp [h, Ne.symm h]

@[simp] theorem get_load (cpu : Cpu) (values : List Int) (r : Register) :
    (cpu.load values).get r = values[r.val]?.getD (cpu.get r) := by
  simp [get, load]

end Cpu

/-- What stays fixed while a program runs. -/
structure Rules where
  dialect : Dialect
  /-- How many return addresses the stack holds. -/
  stackLimit : Int
  deriving DecidableEq, Repr, Inhabited

/-- Everything that an instruction can read or change. -/
structure Machine where
  cpu : Cpu
  memory : Memory memorySize
  screen : Screen screenWidth screenHeight
  keypad : Keypad
  random : Twister
  deriving DecidableEq

namespace Machine

/-- A machine whose memory is empty, with the random bytes of a seed. -/
def blank (seed : Int) : Machine where
  cpu := .initial
  memory := .blank
  screen := Screen.dark
  keypad := .released
  random := .ofSeed seed

instance : Inhabited Machine := ⟨blank 0⟩

/-- A machine with a font in its memory. -/
def withFont (seed : Int) (font : Font) (offset : Int) : Except Error Machine := do
  let machine := blank seed
  return { machine with memory := ← machine.memory.loadFont offset font }

end Machine
end Chip8
