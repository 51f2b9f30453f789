import Chip8.Dialect
import Chip8.Fault
import Chip8.Font

/-!
# Configurations

A `Config` says how fast a device runs, how deep its stack is, which font it starts with and
where, which dialect it speaks and what its random bytes start from.  Hosts ask for one by
`Config.make`, which refuses numbers without sense; a `Config` itself has a positive frame rate
and a positive stack size.
-/

namespace Chip8

/-- The number of frames in a second, and of timer passes. -/
def timerRate : Nat := 60

theorem timerRate_pos : 0 < timerRate := by decide

/-- The number of instructions in a second unless a host asks for another. -/
def defaultClockRate : Nat := 500

/-- How a device is set up. -/
structure Config where
  /-- How many instructions run in a frame. -/
  cyclesPerFrame : Nat
  /-- How many frames there are in a second. -/
  frameRate : Nat
  /-- How many return addresses the stack holds. -/
  stackSize : Nat
  fontOffset : Int
  font : Font
  dialect : Dialect
  /-- What the random bytes start from; without a seed the host chooses one. -/
  seed : Option Int
  frameRate_pos : 0 < frameRate
  stackSize_pos : 0 < stackSize
  deriving DecidableEq, Repr

namespace Config

/-- The configuration that a host asks for.  Of several senseless numbers the first one is
named, in the order of the arguments. -/
def make (cyclesPerFrame frameRate stackSize fontOffset : Int) (font : Font) (dialect : Dialect)
    (seed : Option Int) : Except Error Config :=
  if cyclesPerFrame < 0 then .error .negativeCycles
  else if hr : frameRate ≤ 0 then .error .frameRateNotPositive
  else if hs : stackSize ≤ 0 then .error .stackSizeNotPositive
  else .ok
    { cyclesPerFrame := cyclesPerFrame.toNat
      frameRate := frameRate.toNat
      stackSize := stackSize.toNat
      fontOffset, font, dialect, seed
      frameRate_pos := by omega
      stackSize_pos := by omega }

/-- The configuration of a host that asks for nothing in particular. -/
def standard : Config where
  cyclesPerFrame := defaultClockRate / timerRate
  frameRate := timerRate
  stackSize := 16
  fontOffset := 0
  font := .chip8
  dialect := {}
  seed := none
  frameRate_pos := timerRate_pos
  stackSize_pos := by decide

instance : Inhabited Config := ⟨standard⟩

/-- The number of instructions in a second. -/
def clockRate (config : Config) : Nat :=
  config.cyclesPerFrame * config.frameRate

end Config
end Chip8
