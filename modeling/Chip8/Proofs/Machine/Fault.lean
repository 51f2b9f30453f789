import Chip8.Proofs.Machine.Step

/-!
# Faults of a step

`Machine.StepFault` lists the faults that a program can run into, by the word at the program
counter and the numbers that it meets: a fetch behind the end of memory, a call on a full stack,
and the instructions whose bytes at the index would lie behind the end.

The main statement, `Machine.step_faults_exactly`, is that a step is at fault in just these cases,
with just this cause and the address that the instruction was fetched from, and that nothing but the
program counter shows that the step was tried.  That the rest is untouched is due to the order of
things within each instruction, which `Machine.attempt` spells out: the rows of a sprite are read
before VF is zeroed, the stack is measured before a push, a block is checked before its first byte
is stored and before the index moves on.  For this it does not matter what the registers hold, how
large the stack may become or which dialect is spoken.
-/

namespace Chip8
namespace Machine

/-- The causes for which the step at the program counter is at fault. -/
inductive StepFault (rules : Rules) (machine : Machine) : FaultCause → Prop where
  /-- The word at the program counter does not lie within memory. -/
  | fetch (houtside : memorySize < machine.cpu.pc + 2) :
      StepFault rules machine (.outOfRange (max machine.cpu.pc memorySize))
  /-- `2NNN` with every place of the stack taken. -/
  | call (hfetch : machine.cpu.pc + 2 ≤ memorySize) (hword : machine.nextWord.val / 0x1000 = 0x2)
      (hfull : rules.stackLimit ≤ machine.cpu.stack.length) :
      StepFault rules machine (.stackOverflow machine.cpu.stack.length)
  /-- `DXYN` with a sprite that does not lie within memory. -/
  | draw (hfetch : machine.cpu.pc + 2 ≤ memorySize) (hword : machine.nextWord.val / 0x1000 = 0xD)
      (houtside : memorySize < machine.cpu.index + (machine.nextWord.val % 0x10 : Nat)) :
      StepFault rules machine (.outOfRange (max machine.cpu.index memorySize))
  /-- `FX33` without room for three digits. -/
  | storeDecimal (hfetch : machine.cpu.pc + 2 ≤ memorySize)
      (hword : machine.nextWord.val / 0x1000 = 0xF ∧ machine.nextWord.val % 0x100 = 0x33)
      (houtside : memorySize < machine.cpu.index + 3) :
      StepFault rules machine (.outOfRange (max machine.cpu.index memorySize))
  /-- `FX55` or `FX65` without room for the registers from V0 to VX. -/
  | transfer (hfetch : machine.cpu.pc + 2 ≤ memorySize)
      (hword : machine.nextWord.val / 0x1000 = 0xF ∧
        (machine.nextWord.val % 0x100 = 0x55 ∨ machine.nextWord.val % 0x100 = 0x65))
      (houtside :
        memorySize < machine.cpu.index + (machine.nextWord.val / 0x100 % 0x10 : Nat) + 1) :
      StepFault rules machine (.outOfRange (max machine.cpu.index memorySize))

variable {rules : Rules} {machine : Machine}

/-- A fetch that is refused leaves no other cause. -/
theorem stepFault_iff_of_fetch_eq_error {cause other : FaultCause} (hpc : 0 ≤ machine.cpu.pc)
    (h : machine.fetch = .error cause) : StepFault rules machine other ↔ other = cause := by
  rw [fetch_eq_error_iff, Memory.locate_eq_error_iff hpc] at h
  obtain ⟨houtside, rfl⟩ := h
  constructor
  · intro hfault
    cases hfault with
    | fetch => rfl
    | call hfetch | draw hfetch | storeDecimal hfetch | transfer hfetch => omega
  · rintro rfl
    exact .fetch houtside

/-- Once the word is fetched, the causes are those for which its instruction is refused. -/
theorem stepFault_iff_execute {cause : FaultCause} (hindex : 0 ≤ machine.cpu.index)
    (hfetch : machine.CanFetch) :
    StepFault rules machine cause ↔
      machine.advance.execute rules machine.nextInstruction = .error cause := by
  have hcan := hfetch.2
  have hcall := Instruction.exists_decode_eq_call_iff (w := machine.nextWord)
  have hspan (n : Nat) := Instruction.span?_decode_eq_some_iff (w := machine.nextWord) (n := n)
  rw [execute_eq_error_iff]
  simp only [nextInstruction, hspan, advance, Memory.locate_eq_error_iff hindex]
  constructor
  · intro hfault
    cases hfault with
    | fetch houtside => omega
    | call _ hword hfull =>
      obtain ⟨target, hi⟩ := hcall.2 hword
      exact Or.inl ⟨target, hi, hfull, rfl⟩
    | draw _ hword houtside => exact Or.inr ⟨_, Or.inl ⟨hword, rfl⟩, houtside, rfl⟩
    | storeDecimal _ hword houtside =>
      exact Or.inr ⟨_, Or.inr (Or.inl ⟨hword.1, hword.2, rfl⟩), houtside, rfl⟩
    | transfer _ hword houtside =>
      refine Or.inr ⟨_, Or.inr (Or.inr ⟨hword.1, hword.2, rfl⟩), ?_, rfl⟩
      omega
  · rintro (⟨target, hi, hfull, rfl⟩ | ⟨n, hword, houtside, rfl⟩)
    · exact .call hcan (hcall.1 ⟨target, hi⟩) hfull
    · rcases hword with ⟨hdigit, rfl⟩ | ⟨hdigit, hlow, rfl⟩ | ⟨hdigit, hlow, rfl⟩
      · exact .draw hcan hdigit houtside
      · exact .storeDecimal hcan ⟨hdigit, hlow⟩ houtside
      · refine .transfer hcan ⟨hdigit, hlow⟩ ?_
        omega

theorem result_step_eq_error_iff {fault : Fault} (hpc : 0 ≤ machine.cpu.pc)
    (hindex : 0 ≤ machine.cpu.index) :
    (machine.step rules).value.result = .error fault ↔
      ∃ cause, StepFault rules machine cause ∧ fault = ⟨cause, some machine.cpu.pc⟩ := by
  rcases step_cases rules machine with
    ⟨cause, hfetch, hstep⟩ | ⟨cause, hcan, hexec, hstep⟩ | ⟨next, hcan, hexec, hstep⟩
  · simp only [hstep, stepFault_iff_of_fetch_eq_error hpc hfetch, Except.error.injEq]
    simp [eq_comm]
  · have hone (other : FaultCause) : StepFault rules machine other ↔ cause = other := by
      rw [stepFault_iff_execute hindex hcan, hexec, Except.error.injEq]
    simp only [hstep, hone, Except.error.injEq]
    simp [eq_comm]
  · have hnone (other : FaultCause) : ¬StepFault rules machine other := by
      rw [stepFault_iff_execute hindex hcan, hexec]
      exact fun h => nomatch h
    simp [hstep, hnone]

/-- Of a step that is at fault no more is left than that the word was fetched, if it was. -/
theorem machine_step_of_error {fault : Fault} (hpc : 0 ≤ machine.cpu.pc)
    (h : (machine.step rules).value.result = .error fault) :
    (machine.step rules).value.machine =
      if memorySize < machine.cpu.pc + 2 then machine else machine.advance := by
  rcases step_cases rules machine with
    ⟨cause, hfetch, hstep⟩ | ⟨cause, hcan, hexec, hstep⟩ | ⟨next, hcan, hexec, hstep⟩
  · rw [fetch_eq_error_iff, Memory.locate_eq_error_iff hpc] at hfetch
    rw [hstep, if_pos hfetch.1]
  · have hinside : ¬(memorySize : Int) < machine.cpu.pc + 2 := by
      have := hcan.2
      omega
    rw [hstep, if_neg hinside]
  · simp [hstep] at h

/-- An instruction that is refused, whichever it is and wherever it breaks off, leaves the machine
that it was handed, and nothing on record. -/
theorem left_of_on_attempt_eq_error {i : Instruction} {cause : FaultCause} {left : Logged Machine}
    (h : (attempt rules i).on machine = .error cause left) : left = .silent machine := by
  rw [attempt_eq_whole] at h
  exact (Attempt.on_whole_eq_error_iff.1 h).2

/-- A step is at fault for the causes of `StepFault` and no others.  Its fault names the address of
the instruction.  After a fault the registers, the index, the stack, the timers, the wait, memory,
screen, keypad and random bytes are what they were; the program counter is, too, if there was no
word to fetch, and stands behind the word otherwise.  For none of the instructions breaks off after
a change: it leaves the fetched machine as it found it. -/
theorem step_faults_exactly (rules : Rules) (machine : Machine) (hpc : 0 ≤ machine.cpu.pc)
    (hindex : 0 ≤ machine.cpu.index) :
    (∀ fault, (machine.step rules).value.result = .error fault ↔
      ∃ cause, StepFault rules machine cause ∧ fault = ⟨cause, some machine.cpu.pc⟩) ∧
    (∀ fault, (machine.step rules).value.result = .error fault →
      (machine.step rules).value.machine =
        { machine with
          cpu := { machine.cpu with
            pc := if memorySize < machine.cpu.pc + 2 then machine.cpu.pc
              else machine.cpu.pc + 2 } }) ∧
    ∀ (fetched : Machine) (i : Instruction) (cause : FaultCause) (left : Logged Machine),
      (attempt rules i).on fetched = .error cause left → left = .silent fetched := by
  refine ⟨fun fault => result_step_eq_error_iff hpc hindex, fun fault h => ?_,
    fun fetched i cause left => left_of_on_attempt_eq_error⟩
  rw [machine_step_of_error hpc h]
  split <;> rfl

/-- `FF65` with fifteen bytes left between the index and the end of memory. -/
theorem step_faults_exactly_one_byte_short :
    let rules : Rules := ⟨{}, 16⟩
    let machine : Machine :=
      { cpu := { Cpu.initial with index := 0xFF1 }
        memory := Memory.blank.store 0x200 [0xFF, 0x65]
        screen := Screen.dark
        keypad := .released
        random := ⟨Vector.replicate 624 0, 0⟩ }
    0 ≤ machine.cpu.pc ∧ 0 ≤ machine.cpu.index ∧
      (machine.step rules).value.result = .error ⟨.outOfRange 0x1000, some 0x200⟩ ∧
      (machine.step rules).value.machine =
        { machine with cpu := { machine.cpu with pc := 0x202 } } := by
  intro rules machine
  have hword : machine.nextWord = 0xFF65 := by decide +kernel
  have hexact := step_faults_exactly rules machine (by decide) (by decide)
  have hresult : (machine.step rules).value.result = .error ⟨.outOfRange 0x1000, some 0x200⟩ := by
    refine (hexact.1 _).2 ⟨_, .transfer (by decide) ?_ ?_, rfl⟩
    · rw [hword]
      decide
    · rw [hword]
      decide
  exact ⟨by decide, by decide, hresult, hexact.2.1 _ hresult⟩

end Machine
end Chip8
