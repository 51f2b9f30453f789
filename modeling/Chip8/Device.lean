import Chip8.Config
import Chip8.Machine.Execute
import Chip8.Rom

/-!
# Devices

A `Device` is a machine with a switch: a host loads a program, starts the device, reports the
keys and lets it run frame by frame.  `Device.tick` is a frame: one pass of the timers, then as
many instructions as the configuration says.  A frame ends early when the program waits for a
key, and a fault stops the device for good; only a reset or another program gets it going again.

What a host may want to know of a frame comes back as messages, what is of use for diagnosis
goes into the log.  Nothing that a program does makes `tick` or `step` fail.
-/

namespace Chip8

/-- What a host is told about a frame or a step. -/
inductive Message where
  /-- A word that is no instruction was passed over. -/
  | unknownOpcode (word : Word)
  /-- The program waits for a key that goes into a register. -/
  | waitingForKey (register : Register)
  /-- The device stopped. -/
  | fault (fault : Fault)
  deriving DecidableEq, Repr

/-- Whether a device runs. -/
inductive RunState where
  /-- Not started, or halted by a fault. -/
  | stopped
  | running
  /-- Suspended until a key is pressed. -/
  | waiting
  deriving DecidableEq, Repr

namespace RunState

def name : RunState → String
  | stopped => "STOPPED"
  | running => "RUNNING"
  | waiting => "WAITING"

end RunState

/-- A machine under the control of a host. -/
structure Device where
  config : Config
  machine : Machine
  running : Bool
  /-- The fault that halted the device. -/
  fault : Option Fault
  /-- The size of the program that was loaded. -/
  romSize : Option Nat
  /-- How many frames ran. -/
  frames : Nat
  /-- The seconds that those frames took, as the host measured them. -/
  elapsed : Float

namespace Device

/-! ## Setting up -/

/-- A device that is switched off, with its font in memory.  A configuration without a seed
takes `entropy`. -/
def create (config : Config) (entropy : Int) : Except Error Device := do
  let machine ← Machine.withFont (config.seed.getD entropy) config.font config.fontOffset
  return {
    config, machine
    running := false
    fault := none
    romSize := none
    frames := 0
    elapsed := 0 }

/-- What the device's programs run under. -/
def rules (device : Device) : Rules :=
  ⟨device.config.dialect, device.config.stackSize⟩

/-- Whether the program waits for a key. -/
def awaitingKey (device : Device) : Bool :=
  device.machine.cpu.awaitingKey

def runState (device : Device) : RunState :=
  if !device.running then .stopped
  else if device.awaitingKey then .waiting
  else .running

/-- Whether the device should be heard. -/
def soundActive (device : Device) : Bool :=
  0 < device.machine.cpu.sound

/-! ## Switching and loading -/

/-- Lets frames run.  A device that was halted by a fault stays halted. -/
def start (device : Device) : Logged Device :=
  match device.fault with
  | some fault => do
    Traced.report (.startRefused fault)
    return device
  | none => do
    if device.romSize.isNone then Traced.report .startedWithoutRom
    Traced.report .started
    return { device with running := true }

/-- Lets no more frames run. -/
def stop (device : Device) : Device :=
  { device with running := false }

/-- Memory with nothing in it but the font that was loaded last, where it was loaded. -/
def wipedMemory (memory : Memory memorySize) : Memory memorySize :=
  memory.clear.store memory.fontOffset memory.font.glyphs

/-- Back to the state before a program was loaded.  The font, its place, the configuration and
the stream of random bytes stay. -/
def reset (device : Device) : Logged Device := do
  let machine := device.machine
  Traced.report .reset
  return {
    config := device.config
    machine := {
      cpu := .initial
      memory := wipedMemory machine.memory
      screen := Screen.dark
      keypad := .released
      random := machine.random }
    running := false
    fault := none
    romSize := none
    frames := 0
    elapsed := 0 }

/-- Resets the device and copies a program into memory, which a start then runs. -/
def load (device : Device) (rom : Rom) : Logged Device := do
  let device ← device.reset
  let memory ← device.machine.memory.copyRom rom.bytes
  Traced.report (.romLoaded rom.size)
  return {
    device with
    machine := { device.machine with memory }
    romSize := some rom.size }

/-- Loads a program that fits.  Any other is refused and leaves the device as it was. -/
def loadRom (device : Device) (data : List UInt8) : Except Error (Logged Device) := do
  return device.load (← Rom.ofBytes data)

/-- Copies a font to an offset in memory; without a choice it is the font that was loaded last. -/
def loadFont (device : Device) (offset : Int) (font : Option Font) : Except Error Device := do
  let memory := device.machine.memory
  let memory ← memory.loadFont offset (font.getD memory.font)
  return { device with machine := { device.machine with memory } }

/-! ## Keys -/

/-- Takes note of a key that went down or up.  A key that goes down on a running device ends a
wait, unless it was down already. -/
def setKey (device : Device) (key : Key) (pressed : Bool) : Logged Device :=
  let fresh := pressed && !device.machine.keypad.isDown key
  let machine := { device.machine with keypad := device.machine.keypad.set key pressed }
  if fresh && device.running && machine.cpu.awaitingKey then do
    let machine ← machine.resolveKey key
    return { device with machine }
  else return { device with machine }

/-- `setKey` for a key given by its number. -/
def reportKey (device : Device) (id : Int) (pressed : Bool) : Except Error (Logged Device) :=
  match Key.ofInt? id with
  | none => .error (.invalidKey id)
  | some key => .ok (device.setKey key pressed)

/-! ## The order of things

What a host is refused leaves the device that it then has.  These are the operations that can be
refused, step by step; none of them leaves anything behind when it is. -/

/-- Works on memory. -/
def onMemory (x : Attempt Error (Memory memorySize) Unit) : Attempt Error Device Unit :=
  .within (fun device => device.machine.memory)
    (fun device memory => { device with machine := { device.machine with memory } }) x

/-- `loadRom`, step by step.  The size is looked at before the reset, and by memory once more behind
it. -/
def attemptLoadRom (data : List UInt8) : Attempt Error Device Unit := do
  Attempt.refuseIf (maxRomSize < data.length) (.romTooLarge data.length maxRomSize)
  Attempt.proceed reset
  onMemory (Memory.attemptLoadRom data)
  Attempt.change fun device => { device with romSize := some data.length }
  Attempt.report (.romLoaded data.length)

/-- `loadFont`, step by step. -/
def attemptLoadFont (offset : Int) (font : Option Font) : Attempt Error Device Unit := do
  let memory := (← Attempt.state).machine.memory
  onMemory (Memory.attemptLoadFont offset (font.getD memory.font))

/-- `reportKey`, step by step. -/
def attemptReportKey (id : Int) (pressed : Bool) : Attempt Error Device Unit :=
  match Key.ofInt? id with
  | none => Attempt.refuse (.invalidKey id)
  | some key => Attempt.proceed fun device => device.setKey key pressed

/-! ## Running -/

/-- A device after some instructions, with the messages and the log of those instructions. -/
structure Ran where
  device : Device
  messages : Array Message
  log : Array Log.Entry

/-- Runs one instruction.  A fault halts the device. -/
def cycle (device : Device) : Ran :=
  let ran := device.machine.step device.rules
  let device := { device with machine := ran.value.machine }
  match ran.value.result with
  | .error fault =>
    let halted := { device with fault := some fault, running := false }
    ⟨halted, #[.fault fault], ran.trace.push (.faulted fault)⟩
  | .ok (.unknown word) => ⟨device, #[.unknownOpcode word], ran.trace⟩
  | .ok _ => ⟨device, #[], ran.trace⟩

/-- Runs instructions, up to a number of them, as long as the device runs and waits for no key. -/
def cycles : Nat → Ran → Ran
  | 0, ran => ran
  | count + 1, ran =>
    if ran.device.awaitingKey || !ran.device.running then ran
    else
      let next := ran.device.cycle
      cycles count ⟨next.device, ran.messages ++ next.messages, ran.log ++ next.log⟩

/-- The messages of a frame that ends with the device waiting, one more than those of its
instructions. -/
def waitMessages (device : Device) : Array Message :=
  if device.running && device.awaitingKey then
    #[.waitingForKey device.machine.cpu.keyRegister]
  else #[]

/-- Counts a frame. -/
def countFrame (device : Device) : Device :=
  { device with frames := device.frames + 1 }

/-- One frame, which took `delta` seconds: a pass of the timers and then the frame's
instructions.  The timers count down while the program waits for a key, too. -/
def tick (device : Device) (delta : Float) : Ran :=
  if !device.running then ⟨device, #[], #[]⟩
  else
    let started := { device.countFrame with
      elapsed := device.elapsed + delta
      machine := device.machine.tickTimers }
    let ran := cycles device.config.cyclesPerFrame ⟨started, #[], #[]⟩
    { ran with messages := ran.messages ++ ran.device.waitMessages }

/-- A frame for whose time there is no number.  It is counted and breaks off, and only a device that
does not run takes no notice of it. -/
def tickUntimed (device : Device) : Except Device Ran :=
  if !device.running then .ok ⟨device, #[], #[]⟩ else .error device.countFrame

/-- One instruction, without a pass of the timers. -/
def step (device : Device) : Ran :=
  if !device.running then ⟨device, #[], #[]⟩
  else if device.awaitingKey then ⟨device, device.waitMessages, #[]⟩
  else device.cycle

end Device
end Chip8
