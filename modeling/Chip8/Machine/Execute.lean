import Chip8.Machine

/-!
# Executing instructions

`Machine.execute` is what an instruction comes to on a machine whose program counter already points
behind it, or why the machine cannot carry it out.  `Machine.attempt` carries it out step by step,
and what was done before a refusal stays done.  `Machine.step` fetches the instruction at the
program counter first and takes the same steps; a fault then names the address that the instruction
was fetched from.

Where an instruction sets VF as a flag, the flag is written last and replaces a result in VF.
-/

namespace Chip8
namespace Condition

/-- Whether the condition holds.  A register selects a key by its low four bits. -/
def holds (cpu : Cpu) (keypad : Keypad) : Condition → Bool
  | byteIs x kk => cpu.get x == kk.toNat
  | byteIsNot x kk => cpu.get x != kk.toNat
  | same x y => cpu.get x == cpu.get y
  | differ x y => cpu.get x != cpu.get y
  | keyDown x => keypad.isDown (.ofLowBits (cpu.get x))
  | keyUp x => !keypad.isDown (.ofLowBits (cpu.get x))

end Condition

namespace Alu

/-- One if the condition holds and zero otherwise. -/
def flagOf (condition : Bool) : Int :=
  if condition then 1 else 0

/-- The result of a function on the values of VX and VY, and what it puts into VF, if anything.
Sums, differences and shifts to the left are cut to a byte. -/
def eval (dialect : Dialect) (a b : Int) : Alu → Int × Option Int
  | load => (b, none)
  | or => (Bits.or a b, if dialect.logicClearsFlag then some 0 else none)
  | and => (Bits.and a b, if dialect.logicClearsFlag then some 0 else none)
  | xor => (Bits.xor a b, if dialect.logicClearsFlag then some 0 else none)
  | add => ((a + b) % 256, some (flagOf (255 < a + b)))
  | sub => ((a - b) % 256, some (flagOf (b ≤ a)))
  | subReversed => ((b - a) % 256, some (flagOf (a ≤ b)))
  | shiftRight =>
    let source := if dialect.shiftReadsY then b else a
    (source / 2, some (source % 2))
  | shiftLeft =>
    let source := if dialect.shiftReadsY then b else a
    (source * 2 % 256, some (source / 128 % 2))

end Alu

namespace Cpu

/-- Combines two registers into the first, and then sets VF if the function says so. -/
def combine (cpu : Cpu) (dialect : Dialect) (function : Alu) (x y : Register) : Cpu :=
  let (result, flag) := function.eval dialect (cpu.get x) (cpu.get y)
  let cpu := cpu.set x result
  match flag with
  | none => cpu
  | some value => cpu.set .flag value

/-- The index behind a transfer of the registers from V0 to `last`. -/
def indexBehind (cpu : Cpu) (dialect : Dialect) (last : Register) : Int :=
  if dialect.transferAdvancesIndex then (cpu.index + last.val + 1) % 65536 else cpu.index

/-- The register whose value is added to the target of `BNNN`. -/
def offsetRegister (dialect : Dialect) (target : ShortAddress) : Register :=
  if dialect.jumpReadsX then ⟨target.val / 256, by omega⟩ else .first

end Cpu

namespace Machine

/-- The decimal digits of a byte: hundreds, tens and ones. -/
def decimalDigits (value : Int) : List Int :=
  [value / 100, value / 10 % 10, value % 10]

/-- Draws the sprite of `n` rows at the index, at the position in VX and VY, and sets VF to the
collision. -/
def drawSprite (rules : Rules) (machine : Machine) (x y : Register) (n : Fin 16) :
    Except FaultCause Machine := do
  let cpu := machine.cpu
  let rows ← machine.memory.readBlock cpu.index n.val
  let drawn := Screen.draw machine.screen (cpu.get x) (cpu.get y)
    (rows.map fun row => (row.toNat : Int)) rules.dialect.clipsSprites
  return { machine with
    cpu := cpu.set .flag (Alu.flagOf drawn.collision)
    screen := drawn.screen }

/-- Carries out an instruction. -/
def execute (rules : Rules) (machine : Machine) : Instruction → Except FaultCause Machine
  | .clearScreen => .ok { machine with screen := Screen.dark }
  | .ret =>
    match machine.cpu.stack with
    | [] => .ok machine
    | top :: rest => .ok { machine with cpu := { machine.cpu with pc := top, stack := rest } }
  | .jump target => .ok { machine with cpu := { machine.cpu with pc := target.val } }
  | .call target =>
    let cpu := machine.cpu
    if rules.stackLimit ≤ cpu.stack.length then .error (.stackOverflow cpu.stack.length)
    else .ok { machine with cpu := { cpu with stack := cpu.pc :: cpu.stack, pc := target.val } }
  | .jumpOffset target =>
    let offset := machine.cpu.get (Cpu.offsetRegister rules.dialect target)
    .ok { machine with cpu := { machine.cpu with pc := target.val + offset } }
  | .skip condition =>
    if condition.holds machine.cpu machine.keypad then
      .ok { machine with cpu := { machine.cpu with pc := machine.cpu.pc + 2 } }
    else .ok machine
  | .loadByte x kk => .ok { machine with cpu := machine.cpu.set x kk.toNat }
  | .addByte x kk =>
    .ok { machine with cpu := machine.cpu.set x ((machine.cpu.get x + kk.toNat) % 256) }
  | .alu function x y =>
    .ok { machine with cpu := machine.cpu.combine rules.dialect function x y }
  | .setIndex address => .ok { machine with cpu := { machine.cpu with index := address.val } }
  | .addIndex x =>
    let index := (machine.cpu.index + machine.cpu.get x) % 65536
    .ok { machine with cpu := { machine.cpu with index } }
  | .pointGlyph x =>
    let index := Font.glyphAddress machine.memory.fontOffset (machine.cpu.get x)
    .ok { machine with cpu := { machine.cpu with index } }
  | .random x kk =>
    let (byte, random) := machine.random.byte
    .ok { machine with cpu := machine.cpu.set x (byte &&& kk).toNat, random }
  | .draw x y n => machine.drawSprite rules x y n
  | .readDelay x => .ok { machine with cpu := machine.cpu.set x machine.cpu.delay }
  | .setDelay x =>
    .ok { machine with cpu := { machine.cpu with delay := machine.cpu.get x } }
  | .setSound x =>
    .ok { machine with cpu := { machine.cpu with sound := machine.cpu.get x } }
  | .awaitKey x =>
    .ok { machine with cpu := { machine.cpu with awaitingKey := true, keyRegister := x } }
  | .storeDecimal x => do
    let memory ← machine.memory.writeBlock machine.cpu.index (decimalDigits (machine.cpu.get x))
    return { machine with memory }
  | .storeRegisters x => do
    let memory ← machine.memory.writeBlock machine.cpu.index (machine.cpu.upTo x)
    let index := machine.cpu.indexBehind rules.dialect x
    return { machine with memory, cpu := { machine.cpu with index } }
  | .loadRegisters x => do
    let bytes ← machine.memory.readBlock machine.cpu.index (x.val + 1)
    let index := machine.cpu.indexBehind rules.dialect x
    let values := bytes.map fun byte => (byte.toNat : Int)
    return { machine with cpu := { machine.cpu.load values with index } }
  | .unknown _ => .ok machine

/-- What goes on record when an instruction is carried out: the two kinds that are passed over. -/
def remarks (machine : Machine) : Instruction → Array Log.Entry
  | .ret => if machine.cpu.stack.isEmpty then #[.returnIgnored (machine.cpu.pc - 2)] else #[]
  | .unknown word => #[.unknownSkipped word (machine.cpu.pc - 2)]
  | _ => #[]

/-- The word at the program counter, and the machine with its program counter behind it. -/
def fetch (machine : Machine) : Except FaultCause (Word × Machine) := do
  let word ← machine.memory.readWord machine.cpu.pc
  return (word, { machine with cpu := { machine.cpu with pc := machine.cpu.pc + 2 } })

/-! ## The order of things -/

/-- Changes the registers, the stack or the timers. -/
def changeCpu (f : Cpu → Cpu) : Attempt FaultCause Machine Unit :=
  .change fun machine => { machine with cpu := f machine.cpu }

/-- Works on memory. -/
def onMemory {α : Type} (x : Attempt FaultCause (Memory memorySize) α) :
    Attempt FaultCause Machine α :=
  .within Machine.memory (fun machine memory => { machine with memory }) x

/-- `drawSprite`, step by step. -/
def attemptDraw (rules : Rules) (x y : Register) (n : Fin 16) :
    Attempt FaultCause Machine Unit := do
  let machine ← Attempt.state
  let rows ← Attempt.check (machine.memory.readBlock machine.cpu.index n.val)
  changeCpu fun cpu => cpu.set .flag 0
  let drawn := Screen.draw machine.screen (machine.cpu.get x) (machine.cpu.get y)
    (rows.map fun row => (row.toNat : Int)) rules.dialect.clipsSprites
  Attempt.change fun machine => { machine with screen := drawn.screen }
  changeCpu fun cpu => if drawn.collision then cpu.set .flag 1 else cpu

/-- Carries out an instruction step by step, and puts on record what there is to say. -/
def attempt (rules : Rules) : Instruction → Attempt FaultCause Machine Unit
  | .clearScreen => Attempt.change fun machine => { machine with screen := Screen.dark }
  | .ret => do
    let machine ← Attempt.state
    match machine.cpu.stack with
    | [] => Attempt.report (.returnIgnored (machine.cpu.pc - 2))
    | top :: rest => changeCpu fun cpu => { cpu with pc := top, stack := rest }
  | .jump target => changeCpu fun cpu => { cpu with pc := target.val }
  | .call target => do
    let depth := (← Attempt.state).cpu.stack.length
    Attempt.refuseIf (rules.stackLimit ≤ depth) (.stackOverflow depth)
    changeCpu fun cpu => { cpu with stack := cpu.pc :: cpu.stack }
    changeCpu fun cpu => { cpu with pc := target.val }
  | .jumpOffset target =>
    changeCpu fun cpu =>
      { cpu with pc := target.val + cpu.get (Cpu.offsetRegister rules.dialect target) }
  | .skip condition => do
    let machine ← Attempt.state
    changeCpu fun cpu =>
      if condition.holds cpu machine.keypad then { cpu with pc := cpu.pc + 2 } else cpu
  | .loadByte x kk => changeCpu fun cpu => cpu.set x kk.toNat
  | .addByte x kk => changeCpu fun cpu => cpu.set x ((cpu.get x + kk.toNat) % 256)
  | .alu function x y => changeCpu fun cpu => cpu.combine rules.dialect function x y
  | .setIndex address => changeCpu fun cpu => { cpu with index := address.val }
  | .addIndex x => changeCpu fun cpu => { cpu with index := (cpu.index + cpu.get x) % 65536 }
  | .pointGlyph x => do
    let offset := (← Attempt.state).memory.fontOffset
    changeCpu fun cpu => { cpu with index := Font.glyphAddress offset (cpu.get x) }
  | .random x kk => do
    let (byte, random) := (← Attempt.state).random.byte
    Attempt.change fun machine => { machine with random }
    changeCpu fun cpu => cpu.set x (byte &&& kk).toNat
  | .draw x y n => attemptDraw rules x y n
  | .readDelay x => changeCpu fun cpu => cpu.set x cpu.delay
  | .setDelay x => changeCpu fun cpu => { cpu with delay := cpu.get x }
  | .setSound x => changeCpu fun cpu => { cpu with sound := cpu.get x }
  | .awaitKey x => do
    changeCpu fun cpu => { cpu with awaitingKey := true }
    changeCpu fun cpu => { cpu with keyRegister := x }
  | .storeDecimal x => do
    let cpu := (← Attempt.state).cpu
    onMemory (Memory.attemptWriteBlock cpu.index (decimalDigits (cpu.get x)))
  | .storeRegisters x => do
    let cpu := (← Attempt.state).cpu
    onMemory (Memory.attemptWriteBlock cpu.index (cpu.upTo x))
    changeCpu fun cpu => { cpu with index := cpu.indexBehind rules.dialect x }
  | .loadRegisters x => do
    let machine ← Attempt.state
    let bytes ← Attempt.check (machine.memory.readBlock machine.cpu.index (x.val + 1))
    changeCpu fun cpu => cpu.load (bytes.map fun byte => (byte.toNat : Int))
    changeCpu fun cpu => { cpu with index := cpu.indexBehind rules.dialect x }
  | .unknown word => do
    let machine ← Attempt.state
    Attempt.report (.unknownSkipped word (machine.cpu.pc - 2))

/-- `fetch`, step by step. -/
def attemptFetch : Attempt FaultCause Machine Word := do
  let machine ← Attempt.state
  let word ← Attempt.check (machine.memory.readWord machine.cpu.pc)
  changeCpu fun cpu => { cpu with pc := cpu.pc + 2 }
  return word

/-- Fetches an instruction and carries it out.  A fault names the address of the instruction. -/
def attemptStep (rules : Rules) : Attempt Fault Machine Instruction := do
  let pc := (← Attempt.state).cpu.pc
  EStateM.adaptExcept (fun cause => ⟨cause, some pc⟩) do
    let word ← attemptFetch
    let instruction := Instruction.decode word.val
    Attempt.report (.fetched pc instruction)
    attempt rules instruction
    return instruction

/-- The machine that a step leaves, with the instruction that ran or the fault that it met. -/
structure Stepped where
  machine : Machine
  result : Except Fault Instruction

/-- What comes of a step. -/
def step (rules : Rules) (machine : Machine) : Logged Stepped :=
  match (attemptStep rules).on machine with
  | .ok instruction left => ⟨⟨left.value, .ok instruction⟩, left.trace⟩
  | .error fault left => ⟨⟨left.value, .error fault⟩, left.trace⟩

/-- One pass of the timers. -/
def tickTimers (machine : Machine) : Machine :=
  { machine with cpu := machine.cpu.tickTimers }

/-- Ends a wait for a key with the key that was pressed; without a wait nothing happens. -/
def resolveKey (machine : Machine) (key : Key) : Logged Machine :=
  if machine.cpu.awaitingKey then do
    Traced.report (.keyStored key machine.cpu.keyRegister)
    let cpu := machine.cpu.set machine.cpu.keyRegister key.val
    return { machine with cpu := { cpu with awaitingKey := false } }
  else return machine

/-- The state in which a program begins; memory, screen and keypad stay. -/
def resetCpu (machine : Machine) : Machine :=
  { machine with cpu := .initial }

end Machine
end Chip8
