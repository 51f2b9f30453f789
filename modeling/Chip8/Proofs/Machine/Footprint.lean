import Chip8.Proofs.Machine.Step

/-!
# What an instruction leaves behind

Most instructions touch little of a machine.  `Machine.Footprint` says of the parts that few of them
touch what becomes of each: the stack changes by calls and returns, a timer by the instruction that
sets it, the wait by the instruction that begins one, the random bytes by the instruction that takes
one; the keypad and the note of the font never change.  Every instruction that is carried out leaves
just this behind (`Machine.execute_footprint`), so that what is said of these parts need not go
through all instructions again.  What a step makes of them follows (`Machine.step_footprint`), and
so do statements about runs.
-/

namespace Chip8

/-- The two timers of a machine. -/
inductive Timer where
  | delay
  | sound
  deriving DecidableEq

namespace Timer

/-- What a timer stands at. -/
def value (timer : Timer) (cpu : Cpu) : Int :=
  match timer with
  | delay => cpu.delay
  | sound => cpu.sound

/-- The register that an instruction puts into a timer, for the one that does. -/
def source? : Timer → Instruction → Option Register
  | delay, .setDelay x => some x
  | sound, .setSound x => some x
  | _, _ => none

end Timer

namespace Instruction

/-- The stack after an instruction of which `pc` is the address behind it. -/
def stackAfter (pc : Int) (stack : List Int) : Instruction → List Int
  | call _ => pc :: stack
  | ret => stack.tail
  | _ => stack

/-- The register that an instruction waits to fill, for the one that does. -/
def awaits? : Instruction → Option Register
  | awaitKey x => some x
  | _ => none

/-- The random bytes that are left after an instruction. -/
def randomAfter (random : Twister) : Instruction → Twister
  | .random _ _ => random.byte.2
  | _ => random

theorem awaits?_eq_some_iff {i : Instruction} {x : Register} :
    i.awaits? = some x ↔ i = .awaitKey x := by
  cases i <;> simp [awaits?]

end Instruction

/-- A function of two registers leaves everything but registers alone. -/
theorem Cpu.combine_eq (cpu : Cpu) (dialect : Dialect) (function : Alu) (x y : Register) :
    cpu.combine dialect function x y =
      { cpu with registers := (cpu.combine dialect function x y).registers } := by
  unfold Cpu.combine
  rcases function.eval dialect (cpu.get x) (cpu.get y) with ⟨result, _ | flag⟩ <;> rfl

/-- A function of two registers writes its result to VX, and then its flag to VF if it has one. -/
theorem Cpu.get_combine (cpu : Cpu) (dialect : Dialect) (function : Alu) (x y r : Register) :
    let outcome := function.eval dialect (cpu.get x) (cpu.get y)
    let written := if r = x then outcome.1 else cpu.get r
    (cpu.combine dialect function x y).get r =
      if r = .flag then outcome.2.getD written else written := by
  intro outcome written
  unfold combine
  cases hflag : (function.eval dialect (cpu.get x) (cpu.get y)).2 with
  | none => simp [outcome, written, hflag]
  | some value => simp [outcome, written, hflag]

namespace Machine

variable {rules : Rules} {machine next : Machine} {i : Instruction}

/-- What becomes of the parts of a machine that few instructions touch. -/
structure Footprint (machine : Machine) (i : Instruction) (next : Machine) : Prop where
  stack : next.cpu.stack = i.stackAfter machine.cpu.pc machine.cpu.stack
  delay : next.cpu.delay = (Timer.delay.source? i).elim machine.cpu.delay machine.cpu.get
  sound : next.cpu.sound = (Timer.sound.source? i).elim machine.cpu.sound machine.cpu.get
  awaitingKey : next.cpu.awaitingKey = (i.awaits?.isSome || machine.cpu.awaitingKey)
  keyRegister : next.cpu.keyRegister = i.awaits?.getD machine.cpu.keyRegister
  random : next.random = i.randomAfter machine.random
  keypad : next.keypad = machine.keypad
  font : next.memory.font = machine.memory.font
  fontOffset : next.memory.fontOffset = machine.memory.fontOffset

theorem Footprint.timer (h : Footprint machine i next) (timer : Timer) :
    timer.value next.cpu = (timer.source? i).elim (timer.value machine.cpu) machine.cpu.get := by
  cases timer with
  | delay => exact h.delay
  | sound => exact h.sound

/-- Only the instruction that waits for a key begins a wait, and none ends one. -/
theorem Footprint.awaitingKey_of_other (h : Footprint machine i next)
    (hother : ∀ x, i ≠ .awaitKey x) : next.cpu.awaitingKey = machine.cpu.awaitingKey := by
  have hnone : i.awaits? = none :=
    Option.eq_none_iff_forall_ne_some.2 fun x hx => hother x (Instruction.awaits?_eq_some_iff.1 hx)
  rw [h.awaitingKey, hnone]
  rfl

theorem execute_footprint (hexec : machine.execute rules i = .ok next) :
    Footprint machine i next := by
  cases i with
  | ret =>
    simp only [execute] at hexec
    split at hexec
    next hstack =>
      cases hexec
      exact ⟨by rw [hstack]; rfl, rfl, rfl, rfl, rfl, rfl, rfl, rfl, rfl⟩
    next hstack =>
      cases hexec
      exact ⟨by rw [hstack]; rfl, rfl, rfl, rfl, rfl, rfl, rfl, rfl, rfl⟩
  | call target | skip condition =>
    simp only [execute] at hexec
    split at hexec <;> cases hexec <;> exact ⟨rfl, rfl, rfl, rfl, rfl, rfl, rfl, rfl, rfl⟩
  | alu function x y =>
    simp only [execute, Except.ok.injEq] at hexec
    rw [Cpu.combine_eq] at hexec
    subst hexec
    exact ⟨rfl, rfl, rfl, rfl, rfl, rfl, rfl, rfl, rfl⟩
  | random x kk =>
    simp only [execute, Except.ok.injEq] at hexec
    subst hexec
    exact ⟨rfl, rfl, rfl, rfl, rfl, rfl, rfl, rfl, rfl⟩
  | draw x y n =>
    simp only [execute, drawSprite, bind_pure_comp, map_eq_ok_iff] at hexec
    obtain ⟨rows, -, rfl⟩ := hexec
    exact ⟨rfl, rfl, rfl, rfl, rfl, rfl, rfl, rfl, rfl⟩
  | storeDecimal x | storeRegisters x =>
    simp only [execute, bind_pure_comp, map_eq_ok_iff] at hexec
    obtain ⟨memory, hwrite, rfl⟩ := hexec
    exact ⟨rfl, rfl, rfl, rfl, rfl, rfl, rfl, Memory.font_of_writeBlock hwrite,
      Memory.fontOffset_of_writeBlock hwrite⟩
  | loadRegisters x =>
    simp only [execute, Cpu.load, bind_pure_comp, map_eq_ok_iff] at hexec
    obtain ⟨bytes, -, rfl⟩ := hexec
    exact ⟨rfl, rfl, rfl, rfl, rfl, rfl, rfl, rfl, rfl⟩
  | _ =>
    cases hexec
    exact ⟨rfl, rfl, rfl, rfl, rfl, rfl, rfl, rfl, rfl⟩

/-- A step that is carried out leaves the footprint of its instruction behind, seen from behind the
instruction, and one that is at fault moves the program counter at most. -/
theorem step_footprint (rules : Rules) (machine : Machine) :
    (∃ fault pc, (machine.step rules).value =
      ⟨{ machine with cpu := { machine.cpu with pc } }, .error fault⟩) ∨
    ∃ next, machine.CanFetch ∧ (machine.step rules).value = ⟨next, .ok machine.nextInstruction⟩ ∧
      Footprint machine.advance machine.nextInstruction next := by
  rcases step_cases rules machine with
    ⟨cause, -, hstep⟩ | ⟨cause, -, -, hstep⟩ | ⟨next, hcan, hexec, hstep⟩
  · exact Or.inl ⟨_, machine.cpu.pc, by rw [hstep]⟩
  · exact Or.inl ⟨_, machine.cpu.pc + 2, by rw [hstep]; rfl⟩
  · exact Or.inr ⟨next, hcan, by rw [hstep], execute_footprint hexec⟩

theorem keypad_step (rules : Rules) (machine : Machine) :
    (machine.step rules).value.machine.keypad = machine.keypad := by
  rcases step_footprint rules machine with ⟨fault, pc, hstep⟩ | ⟨next, -, hstep, hprint⟩
  · rw [hstep]
  · rw [hstep]
    exact hprint.keypad

theorem random_step (rules : Rules) (machine : Machine) :
    (machine.step rules).value.machine.random =
      match (machine.step rules).value.result with
      | .ok i => i.randomAfter machine.random
      | .error _ => machine.random := by
  rcases step_footprint rules machine with ⟨fault, pc, hstep⟩ | ⟨next, -, hstep, hprint⟩
  · rw [hstep]
  · rw [hstep]
    exact hprint.random

end Machine
end Chip8
