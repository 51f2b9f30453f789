import Chip8.Proofs.Machine.Footprint
import Chip8.Proofs.Memory.Image

/-!
# What an instruction can change

A machine has many parts and an instruction changes few of them.  `Instruction.mayChange` says
which, part by part: bytes of memory are changed by the two instructions that store at the index,
the screen by the two that draw and clear, and so on.  Some of it depends on the dialect, and which
bytes are changed depends on the index.  With the program counter these are all the parts there are
(`Machine.ext_parts`).

`Machine.step_keeps_part` says that a step changes no other part, whatever word it finds and
wherever.  The parts that few instructions touch are read off the footprint of the instruction
(`Machine.Footprint`); for bytes, screen, index and registers the instructions are gone through once
more (`Machine.execute_confined`).
-/

namespace Chip8

/-- A part of a machine, without the program counter. -/
inductive Part where
  | byte (address : Fin memorySize)
  /-- The note of the font and of its place. -/
  | font
  | screen
  | stack
  | timer (which : Timer)
  /-- Whether the program waits for a key, and the register that the key goes into. -/
  | wait
  | index
  | random
  | keypad
  | register (r : Register)

/-- A part is the same in two machines. -/
def Part.Same (first second : Machine) : Part → Prop
  | byte address => first.memory.byteAt address = second.memory.byteAt address
  | font =>
    first.memory.font = second.memory.font ∧ first.memory.fontOffset = second.memory.fontOffset
  | screen => first.screen = second.screen
  | stack => first.cpu.stack = second.cpu.stack
  | timer which => which.value first.cpu = which.value second.cpu
  | wait =>
    first.cpu.awaitingKey = second.cpu.awaitingKey ∧ first.cpu.keyRegister = second.cpu.keyRegister
  | index => first.cpu.index = second.cpu.index
  | random => first.random = second.random
  | keypad => first.keypad = second.keypad
  | register r => first.cpu.get r = second.cpu.get r

/-- The parts and the program counter are all of a machine. -/
theorem Machine.ext_parts {first second : Machine} (hpc : first.cpu.pc = second.cpu.pc)
    (hparts : ∀ part : Part, part.Same first second) : first = second := by
  have hregisters : first.cpu.registers = second.cpu.registers :=
    Vector.ext fun r hr => hparts (.register ⟨r, hr⟩)
  have hbytes : first.memory.bytes = second.memory.bytes := by
    refine Vector.ext fun address haddress => ?_
    have hbyte : first.memory.byteAt address = second.memory.byteAt address :=
      hparts (.byte ⟨address, haddress⟩)
    rwa [Memory.byteAt, Memory.byteAt, Vector.getElem?_eq_getElem haddress,
      Vector.getElem?_eq_getElem haddress] at hbyte
  have hfont := hparts .font
  have hwait := hparts .wait
  obtain ⟨⟨_, _, _, _, _, _, _, _⟩, ⟨_, _, _⟩, _, _, _⟩ := first
  obtain ⟨⟨_, _, _, _, _, _, _, _⟩, ⟨_, _, _⟩, _, _, _⟩ := second
  cases hpc
  cases hregisters
  cases hbytes
  cases hfont.1
  cases hfont.2
  cases hwait.1
  cases hwait.2
  cases hparts .index
  cases hparts .stack
  cases hparts (.timer .delay)
  cases hparts (.timer .sound)
  cases hparts .screen
  cases hparts .keypad
  cases hparts .random
  rfl

/-- Whether a function of two registers sets VF besides its result. -/
def Alu.setsFlag (dialect : Dialect) : Alu → Bool
  | load => false
  | or | and | xor => dialect.logicClearsFlag
  | add | sub | shiftRight | subReversed | shiftLeft => true

namespace Instruction

/-- Whether an instruction can change a part of a machine whose index is `index`. -/
def mayChange (dialect : Dialect) (index : Int) : Part → Instruction → Bool
  | .byte address, storeDecimal _ => index ≤ address.val ∧ address.val ≤ index + 2
  | .byte address, storeRegisters x => index ≤ address.val ∧ address.val ≤ index + x.val
  | .screen, clearScreen | .screen, draw _ _ _ => true
  | .stack, call _ | .stack, ret => true
  | .timer .delay, setDelay _ | .timer .sound, setSound _ => true
  | .wait, awaitKey _ => true
  | .index, setIndex _ | .index, addIndex _ | .index, pointGlyph _ => true
  | .index, storeRegisters _ | .index, loadRegisters _ => dialect.transferAdvancesIndex
  | .random, random _ _ => true
  | .register r, loadByte x _ | .register r, addByte x _ | .register r, random x _
  | .register r, readDelay x => r = x
  | .register r, alu function x _ => r = x ∨ r = .flag ∧ function.setsFlag dialect = true
  | .register r, loadRegisters x => r ≤ x
  | .register r, draw _ _ _ => r = .flag
  | _, _ => false

end Instruction

theorem Alu.eval_of_not_setsFlag {dialect : Dialect} {function : Alu}
    (h : function.setsFlag dialect = false) (a b : Int) :
    (function.eval dialect a b).2 = none := by
  cases function with
  | load => rfl
  | or | and | xor => exact if_neg (Bool.eq_false_iff.1 h)
  | _ => cases h

namespace Cpu

variable {cpu : Cpu}

theorem get_set_of_ne {r other : Register} (h : other ≠ r) {value : Int} :
    (cpu.set r value).get other = cpu.get other := by
  rw [get_set, if_neg h]

theorem get_combine_of_ne {dialect : Dialect} {function : Alu} {x y r : Register} (hx : r ≠ x)
    (hflag : r = .flag → function.setsFlag dialect = false) :
    (cpu.combine dialect function x y).get r = cpu.get r := by
  rw [get_combine, if_neg hx]
  split
  next hr => rw [Alu.eval_of_not_setsFlag (hflag hr), Option.getD_none]
  next hr => rfl

/-- Values are loaded into the first registers only, as many as there are. -/
theorem get_load_of_le {values : List Int} {r : Register} (h : values.length ≤ r.val) :
    (cpu.load values).get r = cpu.get r := by
  rw [get_load, List.getElem?_eq_none h, Option.getD_none]

theorem indexBehind_of_not_advances {dialect : Dialect} (h : dialect.transferAdvancesIndex = false)
    (last : Register) : cpu.indexBehind dialect last = cpu.index := by
  unfold indexBehind
  rw [if_neg (Bool.eq_false_iff.1 h)]

end Cpu

theorem Memory.length_of_readBlock {size : Nat} {memory : Memory size} {start : Int} {length : Nat}
    {bytes : List UInt8} (h : memory.readBlock start length = .ok bytes) :
    bytes.length = length := by
  simp only [readBlock, bind_pure_comp, map_eq_ok_iff, locate_eq_ok_iff] at h
  obtain ⟨place, ⟨hlow, -, rfl⟩, rfl⟩ := h
  rw [List.length_map, List.length_range]
  unfold blockEnd
  split <;> omega

namespace Machine

variable {rules : Rules} {machine next : Machine} {i : Instruction}

/-- An instruction leaves the bytes, the screen, the index and the registers that it does not
change. -/
structure Confined (rules : Rules) (machine : Machine) (i : Instruction) (next : Machine) :
    Prop where
  byte : ∀ address, i.mayChange rules.dialect machine.cpu.index (.byte address) = false →
    (Part.byte address).Same machine next
  screen : i.mayChange rules.dialect machine.cpu.index .screen = false →
    Part.screen.Same machine next
  index : i.mayChange rules.dialect machine.cpu.index .index = false → Part.index.Same machine next
  register : ∀ r, i.mayChange rules.dialect machine.cpu.index (.register r) = false →
    (Part.register r).Same machine next

/-- Every instruction that is carried out is confined. -/
theorem execute_confined (hexec : machine.execute rules i = .ok next) :
    Confined rules machine i next := by
  cases i with
  | clearScreen =>
    cases hexec
    exact ⟨fun _ _ => rfl, fun h => (by cases h), fun _ => rfl, fun _ _ => rfl⟩
  | ret | call _ | skip _ =>
    simp only [execute] at hexec
    split at hexec <;> cases hexec <;>
      exact ⟨fun _ _ => rfl, fun _ => rfl, fun _ => rfl, fun _ _ => rfl⟩
  -- What writes registers: VX, or VF, or all up to VX.
  | loadByte x _ | addByte x _ | readDelay x =>
    cases hexec
    refine ⟨fun _ _ => rfl, fun _ => rfl, fun _ => rfl, fun r hr => ?_⟩
    have hne : r ≠ x := of_decide_eq_false hr
    exact (Cpu.get_set_of_ne hne).symm
  | random x kk =>
    simp only [execute, Except.ok.injEq] at hexec
    subst hexec
    refine ⟨fun _ _ => rfl, fun _ => rfl, fun _ => rfl, fun r hr => ?_⟩
    have hne : r ≠ x := of_decide_eq_false hr
    exact (Cpu.get_set_of_ne hne).symm
  | alu function x y =>
    cases hexec
    refine ⟨fun _ _ => by rw [Part.Same, Cpu.combine_eq], fun _ => rfl,
      fun _ => by rw [Part.Same, Cpu.combine_eq], fun r hr => ?_⟩
    have hkept : ¬(r = x ∨ r = .flag ∧ function.setsFlag rules.dialect = true) :=
      of_decide_eq_false hr
    have hne : r ≠ x := fun h => hkept (Or.inl h)
    have hflag : r = .flag → function.setsFlag rules.dialect = false :=
      fun hflag => Bool.eq_false_iff.2 fun hset => hkept (Or.inr ⟨hflag, hset⟩)
    exact (Cpu.get_combine_of_ne hne hflag).symm
  | draw x y n =>
    simp only [execute, drawSprite, bind_pure_comp, map_eq_ok_iff] at hexec
    obtain ⟨rows, -, rfl⟩ := hexec
    refine ⟨fun _ _ => rfl, fun h => (by cases h), fun _ => rfl, fun r hr => ?_⟩
    have hne : r ≠ .flag := of_decide_eq_false hr
    exact (Cpu.get_set_of_ne hne).symm
  | loadRegisters x =>
    simp only [execute, bind_pure_comp, map_eq_ok_iff] at hexec
    obtain ⟨bytes, hread, rfl⟩ := hexec
    refine ⟨fun _ _ => rfl, fun _ => rfl, fun hindex => ?_, fun r hr => ?_⟩
    · exact (Cpu.indexBehind_of_not_advances hindex x).symm
    · have hlength : (bytes.map fun byte => (byte.toNat : Int)).length = x.val + 1 := by
        rw [List.length_map]
        exact Memory.length_of_readBlock hread
      have hbehind : ¬r.val ≤ x.val := of_decide_eq_false hr
      exact (Cpu.get_load_of_le (by omega)).symm
  -- What moves the index.
  | setIndex _ | addIndex _ | pointGlyph _ =>
    cases hexec
    exact ⟨fun _ _ => rfl, fun _ => rfl, fun h => (by cases h), fun _ _ => rfl⟩
  -- What stores bytes at the index.
  | storeDecimal x =>
    simp only [execute, bind_pure_comp, map_eq_ok_iff] at hexec
    obtain ⟨memory, hwrite, rfl⟩ := hexec
    refine ⟨fun address hout => ?_, fun _ => rfl, fun _ => rfl, fun _ _ => rfl⟩
    have hout : ¬(machine.cpu.index ≤ address.val ∧ address.val ≤ machine.cpu.index + 2) :=
      of_decide_eq_false hout
    have hlength : (decimalDigits (machine.cpu.get x)).length = 3 := rfl
    exact (Memory.byteAt_of_writeBlock hwrite address.isLt (by omega)).symm
  | storeRegisters x =>
    simp only [execute, bind_pure_comp, map_eq_ok_iff] at hexec
    obtain ⟨memory, hwrite, rfl⟩ := hexec
    refine ⟨fun address hout => ?_, fun _ => rfl, fun hindex => ?_, fun _ _ => rfl⟩
    · have hout : ¬(machine.cpu.index ≤ address.val ∧ address.val ≤ machine.cpu.index + x.val) :=
        of_decide_eq_false hout
      have hlength := length_upTo machine.cpu x
      exact (Memory.byteAt_of_writeBlock hwrite address.isLt (by omega)).symm
    · exact (Cpu.indexBehind_of_not_advances hindex x).symm
  | _ =>
    cases hexec
    exact ⟨fun _ _ => rfl, fun _ => rfl, fun _ => rfl, fun _ _ => rfl⟩

/-- An instruction that is carried out leaves every part that it does not change. -/
theorem execute_keeps_part (hexec : machine.execute rules i = .ok next) {part : Part}
    (hkept : i.mayChange rules.dialect machine.cpu.index part = false) :
    part.Same machine next := by
  have hprint : Footprint machine i next := execute_footprint hexec
  have hconfined : Confined rules machine i next := execute_confined hexec
  cases part with
  | byte address => exact hconfined.byte address hkept
  | screen => exact hconfined.screen hkept
  | index => exact hconfined.index hkept
  | register r => exact hconfined.register r hkept
  | font => exact ⟨hprint.font.symm, hprint.fontOffset.symm⟩
  | keypad => exact hprint.keypad.symm
  | stack =>
    have hstack : i.stackAfter machine.cpu.pc machine.cpu.stack = machine.cpu.stack := by
      cases i <;> first | rfl | cases hkept
    exact (hprint.stack.trans hstack).symm
  | timer which =>
    have hsource : which.source? i = none := by
      cases which <;> cases i <;> first | rfl | cases hkept
    have htimer := hprint.timer which
    rw [hsource] at htimer
    exact htimer.symm
  | wait =>
    have hawaits : i.awaits? = none := by
      cases i <;> first | rfl | cases hkept
    have hwaiting := hprint.awaitingKey
    have hregister := hprint.keyRegister
    rw [hawaits] at hwaiting hregister
    exact ⟨hwaiting.symm, hregister.symm⟩
  | random =>
    have hrandom : i.randomAfter machine.random = machine.random := by
      cases i <;> first | rfl | cases hkept
    exact (hprint.random.trans hrandom).symm

theorem execute_of_isUnknown (hexec : machine.execute rules i = .ok next)
    (hunknown : i.isUnknown = true) : next = machine := by
  cases i <;> cases hunknown
  cases hexec
  rfl

/-- A step that is not at fault carries out the instruction at the program counter and leaves every
part of the machine that this instruction does not change, seen from the index before the step.  A
word that is no instruction moves the program counter and nothing else. -/
theorem step_keeps_part (hstep : (machine.step rules).value = ⟨next, .ok i⟩) :
    i = Instruction.decode machine.nextWord.val ∧
      (∀ part, i.mayChange rules.dialect machine.cpu.index part = false →
        part.Same machine next) ∧
      (i.isUnknown = true →
        next = { machine with cpu := { machine.cpu with pc := machine.cpu.pc + 2 } }) := by
  rcases step_cases rules machine with
    ⟨cause, -, hcase⟩ | ⟨cause, -, -, hcase⟩ | ⟨after, -, hexec, hcase⟩
  · rw [hcase] at hstep
    cases hstep
  · rw [hcase] at hstep
    cases hstep
  · rw [hcase] at hstep
    cases hstep
    refine ⟨rfl, fun part hkept => ?_, execute_of_isUnknown hexec⟩
    -- Fetching moves the program counter, which is no part.
    have hsame : part.Same machine.advance next := execute_keeps_part hexec hkept
    cases part <;> exact hsame

/-- `F155` with the index one byte in front of it overwrites its own first byte.  Its second byte
and the index stay. -/
theorem step_keeps_part_self_overwriting :
    let rules : Rules := ⟨{ transferAdvancesIndex := false }, 16⟩
    let machine : Machine :=
      { cpu := { Cpu.initial with index := 0x1FF }
        memory := Memory.blank.store 0x200 [0xF1, 0x55]
        screen := Screen.dark
        keypad := .released
        random := ⟨Vector.replicate 624 0, 0⟩ }
    ∃ next, (machine.step rules).value = ⟨next, .ok (.storeRegisters 1)⟩ ∧
      next.memory.byteAt 0x200 = 0 ∧ next.memory.byteAt 0x201 = 0x55 ∧
      next.cpu.index = 0x1FF := by
  intro rules machine
  have hcan : machine.CanFetch := by decide
  have hword : machine.nextInstruction = .storeRegisters 1 := by decide +kernel
  obtain ⟨next, hexec⟩ :
      ∃ next, machine.advance.execute rules machine.nextInstruction = .ok next := by
    rw [hword]
    exact ⟨_, rfl⟩
  have hstep : (machine.step rules).value = ⟨next, .ok (.storeRegisters 1)⟩ := by
    rw [step_of_execute_eq_ok hcan hexec, hword]
  have hfirst : (machine.step rules).value.machine.memory.byteAt 0x200 = 0 := by decide +kernel
  rw [hstep] at hfirst
  obtain ⟨-, hkeeps, -⟩ := step_keeps_part hstep
  have hsecond : machine.memory.byteAt 0x201 = 0x55 := by decide +kernel
  have hbyte : (Part.byte ⟨0x201, by decide⟩).Same machine next := hkeeps _ (by decide)
  have hindex : Part.index.Same machine next := hkeeps _ (by decide)
  exact ⟨next, hstep, hfirst, hbyte.symm.trans hsecond, hindex.symm⟩

end Machine
end Chip8
