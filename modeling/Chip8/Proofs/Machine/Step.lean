import Chip8.Proofs.Instruction.Encoding
import Chip8.Proofs.Machine.AllOrNothing

/-!
# What a step can do

`Machine.step` fetches the word at the program counter and executes it.  `Machine.step_cases` says
once how a step can end: the fetch is refused and nothing happens, or the instruction is refused
and only the program counter moved, or the instruction ran.  Every statement about steps starts from
it, so that none has to open `step` again.

An instruction is refused for one of two reasons (`Machine.execute_eq_error_iff`): a call finds the
stack full, or the block of bytes that the instruction moves at the index (`Instruction.span?`) does
not lie within memory.
-/

namespace Chip8
namespace Machine

/-! ## Fetching -/

/-- The word at the program counter. -/
def nextWord (machine : Machine) : Word :=
  Word.ofBytes (machine.memory.byteAt machine.cpu.pc.toNat)
    (machine.memory.byteAt (machine.cpu.pc.toNat + 1))

/-- The instruction at the program counter. -/
def nextInstruction (machine : Machine) : Instruction :=
  Instruction.decode machine.nextWord.val

/-- The machine with its program counter behind the word that it pointed to. -/
def advance (machine : Machine) : Machine :=
  { machine with cpu := { machine.cpu with pc := machine.cpu.pc + 2 } }

/-- The program counter points to a whole word of memory. -/
def CanFetch (machine : Machine) : Prop :=
  0 ≤ machine.cpu.pc ∧ machine.cpu.pc + 2 ≤ memorySize

instance (machine : Machine) : Decidable machine.CanFetch :=
  inferInstanceAs (Decidable (_ ∧ _))

theorem fetch_eq_error_iff {machine : Machine} {cause : FaultCause} :
    machine.fetch = .error cause ↔
      Memory.locate memorySize machine.cpu.pc 2 = .error cause := by
  simp only [fetch, bind_pure_comp, map_eq_error_iff, Memory.readWord_eq_error_iff]

theorem fetch_eq_ok {machine : Machine} (h : machine.CanFetch) :
    machine.fetch = .ok (machine.nextWord, machine.advance) := by
  have hword : machine.memory.readWord machine.cpu.pc = .ok machine.nextWord :=
    Memory.readWord_eq_ok_iff.2 ⟨h.1, h.2, rfl⟩
  unfold fetch
  rw [hword]
  rfl

theorem canFetch_of_fetch_eq_ok {machine : Machine} {fetched : Word × Machine}
    (h : machine.fetch = .ok fetched) : machine.CanFetch := by
  simp only [fetch, bind_pure_comp, map_eq_ok_iff, Memory.readWord_eq_ok_iff] at h
  obtain ⟨word, ⟨hlow, hhigh, -⟩, -⟩ := h
  exact ⟨hlow, hhigh⟩

/-! ## The three ends of a step -/

/-- What a step puts on record when its fetch succeeds. -/
def stepTrace (machine : Machine) : Array Log.Entry :=
  #[.fetched machine.cpu.pc machine.nextInstruction] ++
    machine.advance.remarks machine.nextInstruction

theorem step_of_fetch_eq_error {machine : Machine} {cause : FaultCause} (rules : Rules)
    (h : machine.fetch = .error cause) :
    machine.step rules = ⟨⟨machine, .error ⟨cause, some machine.cpu.pc⟩⟩, #[]⟩ := by
  unfold step
  rw [on_attemptStep_of_fetch_eq_error rules h]
  rfl

theorem step_of_execute_eq_error {rules : Rules} {machine : Machine} {cause : FaultCause}
    (hcan : machine.CanFetch)
    (hexec : machine.advance.execute rules machine.nextInstruction = .error cause) :
    machine.step rules =
      ⟨⟨machine.advance, .error ⟨cause, some machine.cpu.pc⟩⟩, machine.stepTrace⟩ := by
  unfold step
  rw [on_attemptStep_of_fetch_eq_ok rules (fetch_eq_ok hcan)]
  simp only [← nextInstruction.eq_1, hexec, stepTrace]

theorem step_of_execute_eq_ok {rules : Rules} {machine next : Machine} (hcan : machine.CanFetch)
    (hexec : machine.advance.execute rules machine.nextInstruction = .ok next) :
    machine.step rules = ⟨⟨next, .ok machine.nextInstruction⟩, machine.stepTrace⟩ := by
  unfold step
  rw [on_attemptStep_of_fetch_eq_ok rules (fetch_eq_ok hcan)]
  simp only [← nextInstruction.eq_1, hexec, stepTrace]

/-- A step fails to fetch, or fetches an instruction and is refused, or carries it out. -/
theorem step_cases (rules : Rules) (machine : Machine) :
    (∃ cause, machine.fetch = .error cause ∧
      machine.step rules = ⟨⟨machine, .error ⟨cause, some machine.cpu.pc⟩⟩, #[]⟩) ∨
    (∃ cause, machine.CanFetch ∧
      machine.advance.execute rules machine.nextInstruction = .error cause ∧
      machine.step rules =
        ⟨⟨machine.advance, .error ⟨cause, some machine.cpu.pc⟩⟩, machine.stepTrace⟩) ∨
    (∃ next, machine.CanFetch ∧
      machine.advance.execute rules machine.nextInstruction = .ok next ∧
      machine.step rules = ⟨⟨next, .ok machine.nextInstruction⟩, machine.stepTrace⟩) := by
  cases hfetch : machine.fetch with
  | error cause => exact Or.inl ⟨cause, rfl, step_of_fetch_eq_error rules hfetch⟩
  | ok fetched =>
    have hcan := canFetch_of_fetch_eq_ok hfetch
    right
    cases hexec : machine.advance.execute rules machine.nextInstruction with
    | error cause => exact Or.inl ⟨cause, hcan, rfl, step_of_execute_eq_error hcan hexec⟩
    | ok next => exact Or.inr ⟨next, hcan, rfl, step_of_execute_eq_ok hcan hexec⟩

/-- A step that is not at fault carries out the instruction at the program counter. -/
theorem execute_of_result_step {rules : Rules} {machine : Machine} {i : Instruction}
    (h : (machine.step rules).value.result = .ok i) :
    i = machine.nextInstruction ∧
      machine.advance.execute rules i = .ok (machine.step rules).value.machine ∧
      (machine.step rules).trace = machine.stepTrace := by
  rcases step_cases rules machine with
    ⟨cause, -, hstep⟩ | ⟨cause, -, -, hstep⟩ | ⟨next, -, hexec, hstep⟩
  · rw [hstep] at h
    cases h
  · rw [hstep] at h
    cases h
  · rw [hstep] at h
    cases h
    rw [hstep]
    exact ⟨rfl, hexec, rfl⟩

/-- The machine after a number of steps.  A step at fault leaves a machine like any other, and the
next one goes on from there. -/
def afterSteps (rules : Rules) (machine : Machine) : Nat → Machine
  | 0 => machine
  | count + 1 => ((machine.afterSteps rules count).step rules).value.machine

/-! ## When an instruction is refused -/

theorem drawSprite_eq_error_iff {rules : Rules} {machine : Machine} {x y : Register}
    {n : Fin 16} {cause : FaultCause} :
    machine.drawSprite rules x y n = .error cause ↔
      Memory.locate memorySize machine.cpu.index n.val = .error cause := by
  simp only [drawSprite, bind_pure_comp, map_eq_error_iff, Memory.readBlock_eq_error_iff]

theorem length_upTo (cpu : Cpu) (last : Register) : (cpu.upTo last).length = last.val + 1 := by
  simp only [Cpu.upTo, List.length_take, Vector.length_toList]
  omega

theorem execute_eq_error_iff {rules : Rules} {machine : Machine} {i : Instruction}
    {cause : FaultCause} :
    machine.execute rules i = .error cause ↔
      (∃ target, i = .call target ∧ rules.stackLimit ≤ machine.cpu.stack.length ∧
        cause = .stackOverflow machine.cpu.stack.length) ∨
      (∃ n : Nat, i.span? = some n ∧
        Memory.locate memorySize machine.cpu.index n = .error cause) := by
  cases i with
  | draw x y n => simp [execute, Instruction.span?, drawSprite_eq_error_iff]
  | storeDecimal x =>
    simp [execute, Instruction.span?, Memory.writeBlock_eq_error_iff, decimalDigits]
  | storeRegisters x =>
    simp [execute, Instruction.span?, Memory.writeBlock_eq_error_iff, length_upTo]
  | loadRegisters x => simp [execute, Instruction.span?, Memory.readBlock_eq_error_iff]
  | call target =>
    simp only [execute, Instruction.span?]
    split
    next hfull => simp [hfull, eq_comm]
    next hroom => simp [hroom]
  | ret =>
    cases hstack : machine.cpu.stack <;> simp [execute, hstack, Instruction.span?]
  | skip condition =>
    cases hholds : condition.holds machine.cpu machine.keypad <;>
      simp [execute, hholds, Instruction.span?]
  | _ => simp [execute, Instruction.span?]

end Machine
end Chip8
