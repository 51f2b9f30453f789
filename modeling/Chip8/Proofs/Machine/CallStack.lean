import Chip8.Proofs.Machine.ControlFlow

/-!
# Calls and returns

A run of steps may go anywhere: calls and returns need not match, jumps lead out of subroutines,
and a program may rewrite itself on the way.  What a call leaves on the stack is safe all the same
for as long as the stack does not become shorter than the call made it.

The reason is that the stack changes at its end only, by one address at a time
(`Machine.stack_step`).  A part at the bottom that a run never gets down to therefore stays as it is
(`Machine.suffix_afterSteps`), and the step that gets down to it is a return to the address above
(`Machine.ret_of_suffix`).  Together these give `Machine.call_stack_discipline`.
-/

namespace Chip8

/-- The `depth` entries at the bottom of the stack, or all of them if there are fewer, the latest
first. -/
def Cpu.bottom (cpu : Cpu) (depth : Nat) : List Int :=
  cpu.stack.drop (cpu.stack.length - depth)

theorem Cpu.bottom_suffix (cpu : Cpu) (depth : Nat) : cpu.bottom depth <:+ cpu.stack :=
  List.drop_suffix _ _

theorem Cpu.length_bottom {cpu : Cpu} {depth : Nat} (h : depth ≤ cpu.stack.length) :
    (cpu.bottom depth).length = depth := by
  rw [bottom, List.length_drop]
  omega

namespace Machine

variable {rules : Rules} {machine : Machine}

/-! ## One step -/

/-- A step changes the stack by a call or a return that is carried out, and by nothing else. -/
theorem stack_step (rules : Rules) (machine : Machine) :
    (machine.step rules).value.machine.cpu.stack =
      match (machine.step rules).value.result with
      | .ok instruction => instruction.stackAfter (machine.cpu.pc + 2) machine.cpu.stack
      | .error _ => machine.cpu.stack := by
  rcases step_footprint rules machine with ⟨fault, pc, hstep⟩ | ⟨next, -, hstep, hprint⟩
  · rw [hstep]
  · rw [hstep]
    exact hprint.stack

/-- A step leaves the stack as it is, or adds an address to it, or takes the latest one off, which
is what a return does. -/
theorem stack_step_cases (rules : Rules) (machine : Machine) :
    (machine.step rules).value.machine.cpu.stack = machine.cpu.stack ∨
    (∃ address, (machine.step rules).value.machine.cpu.stack = address :: machine.cpu.stack) ∨
    ((machine.step rules).value.result = .ok .ret ∧
      (machine.step rules).value.machine.cpu.stack = machine.cpu.stack.tail) := by
  rw [stack_step]
  cases (machine.step rules).value.result with
  | error fault => exact Or.inl rfl
  | ok instruction =>
    cases instruction with
    | call target => exact Or.inr (Or.inl ⟨_, rfl⟩)
    | ret => exact Or.inr (Or.inr ⟨rfl, rfl⟩)
    | _ => exact Or.inl rfl

theorem stack_step_of_call {target : ShortAddress}
    (hcall : (machine.step rules).value.result = .ok (.call target)) :
    (machine.step rules).value.machine.cpu.stack = (machine.cpu.pc + 2) :: machine.cpu.stack := by
  rw [stack_step, hcall]
  rfl

/-- A return that is carried out goes to the address that it takes off the stack. -/
theorem pc_step_of_ret {top : Int} {rest : List Int}
    (hret : (machine.step rules).value.result = .ok .ret)
    (hstack : machine.cpu.stack = top :: rest) :
    (machine.step rules).value.machine.cpu.pc = top := by
  have hadvance : machine.advance.cpu.stack = top :: rest := hstack
  rw [pc_step hret, ← (execute_of_result_step hret).1, Instruction.pcAfter, hadvance,
    List.headD_cons]

/-- A step that takes the stack down to what stands below an address in it returns to that
address. -/
theorem ret_of_suffix {address : Int} {below : List Int}
    (h : address :: below <:+ machine.cpu.stack)
    (hdown : (machine.step rules).value.machine.cpu.stack.length = below.length) :
    (machine.step rules).value.result = .ok .ret ∧
      (machine.step rules).value.machine.cpu.stack = below ∧
      (machine.step rules).value.machine.cpu.pc = address := by
  have hlength := h.length_le
  rw [List.length_cons] at hlength
  rcases stack_step_cases rules machine with hsame | ⟨pushed, hpush⟩ | ⟨hret, hpop⟩
  · rw [hsame] at hdown
    omega
  · rw [hpush, List.length_cons] at hdown
    omega
  · rw [hpop, List.length_tail] at hdown
    have hstack : address :: below = machine.cpu.stack :=
      h.eq_of_length (by rw [List.length_cons]; omega)
    exact ⟨hret, by rw [hpop, ← hstack, List.tail_cons], pc_step_of_ret hret hstack.symm⟩

/-- What a step does not get down to stays at the bottom of the stack. -/
theorem suffix_step {base : List Int} (h : base <:+ machine.cpu.stack)
    (hdeep : base.length ≤ (machine.step rules).value.machine.cpu.stack.length) :
    base <:+ (machine.step rules).value.machine.cpu.stack := by
  rcases stack_step_cases rules machine with hsame | ⟨address, hpush⟩ | ⟨-, hpop⟩
  · rw [hsame]
    exact h
  · rw [hpush]
    exact h.trans (List.suffix_cons _ _)
  · rw [hpop] at hdeep ⊢
    exact List.suffix_of_suffix_length_le h (List.tail_suffix _) hdeep

/-! ## Runs -/

/-- What a run never gets down to stays at the bottom of the stack. -/
theorem suffix_afterSteps {base : List Int} (h : base <:+ machine.cpu.stack) {count : Nat}
    (hdeep : ∀ i ≤ count, base.length ≤ (machine.afterSteps rules i).cpu.stack.length) :
    base <:+ (machine.afterSteps rules count).cpu.stack := by
  induction count with
  | zero => exact h
  | succ count ih =>
    have hbefore := ih fun i hi => hdeep i (Nat.le_succ_of_le hi)
    exact suffix_step hbefore (hdeep (count + 1) (Nat.le_refl _))

/-- The entries at the bottom of the stack that a run never gets down to are the same at its end. -/
theorem bottom_afterSteps {depth count : Nat}
    (hdeep : ∀ i ≤ count, depth ≤ (machine.afterSteps rules i).cpu.stack.length) :
    (machine.afterSteps rules count).cpu.bottom depth = machine.cpu.bottom depth := by
  have hlength : (machine.cpu.bottom depth).length = depth :=
    Cpu.length_bottom (hdeep 0 (Nat.zero_le _))
  have hsuffix := suffix_afterSteps (machine.cpu.bottom_suffix depth) (by rwa [hlength])
  rw [List.suffix_iff_eq_drop, hlength] at hsuffix
  exact hsuffix.symm

/-- While a run is inside of what a call began, which is until the stack is back to its length
before the call, the stack that the call made stays at the bottom. -/
theorem suffix_of_call {target : ShortAddress} {count : Nat}
    (hcall : (machine.step rules).value.result = .ok (.call target))
    (hinside : ∀ i ≤ count,
      (machine.afterSteps rules (i + 1)).cpu.stack.length ≠ machine.cpu.stack.length) :
    ((machine.cpu.pc + 2) :: machine.cpu.stack) <:+
      (machine.afterSteps rules (count + 1)).cpu.stack := by
  induction count with
  | zero => exact stack_step_of_call hcall ▸ List.suffix_refl _
  | succ count ih =>
    have hbefore := ih fun i hi => hinside i (Nat.le_succ_of_le hi)
    refine suffix_step hbefore ?_
    -- One step takes off one address at most, and the length before the call is left out.
    have hstay := hinside (count + 1) (Nat.le_refl _)
    have hlength := hbefore.length_le
    rw [List.length_cons] at hlength ⊢
    rw [afterSteps] at hstay
    rcases stack_step_cases rules (machine.afterSteps rules (count + 1)) with
      hsame | ⟨address, hpush⟩ | ⟨-, hpop⟩
    · rw [hsame]
      exact hlength
    · rw [hpush, List.length_cons]
      omega
    · rw [hpop, List.length_tail] at hstay ⊢
      omega

/-- Whatever a run does, the entries at the bottom of the stack that it never gets down to stay.
The first step after a call that brings the stack back to its length before the call is a return; it
leaves the stack of that time and goes on behind the call.  A return without an address to go to is
passed over. -/
theorem call_stack_discipline (rules : Rules) (machine : Machine) :
    (∀ depth count : Nat,
      (∀ i ≤ count, depth ≤ (machine.afterSteps rules i).cpu.stack.length) →
      (machine.afterSteps rules count).cpu.bottom depth = machine.cpu.bottom depth) ∧
    (∀ (target : ShortAddress) (count : Nat),
      (machine.step rules).value.result = .ok (.call target) →
      (∀ i, 1 ≤ i → i < count →
        (machine.afterSteps rules i).cpu.stack.length ≠ machine.cpu.stack.length) →
      1 ≤ count → (machine.afterSteps rules count).cpu.stack.length = machine.cpu.stack.length →
      ((machine.afterSteps rules (count - 1)).step rules).value.result = .ok .ret ∧
        (machine.afterSteps rules count).cpu.stack = machine.cpu.stack ∧
        (machine.afterSteps rules count).cpu.pc = machine.cpu.pc + 2) ∧
    (machine.CanFetch → machine.nextInstruction = .ret → machine.cpu.stack = [] →
      (machine.step rules).value.result = .ok .ret ∧
        (machine.step rules).value.machine.cpu.stack = [] ∧
        (machine.step rules).value.machine.cpu.pc = machine.cpu.pc + 2) := by
  refine ⟨fun depth count => bottom_afterSteps, ?_, ?_⟩
  · intro target count hcall hinside hsteps hback
    match count with
    | 0 => exact absurd hsteps (Nat.not_succ_le_zero 0)
    | 1 =>
      -- The call itself is not the step that brings the stack back.
      rw [afterSteps, afterSteps, stack_step_of_call hcall, List.length_cons] at hback
      exact absurd hback (Nat.succ_ne_self _)
    | inside + 2 =>
      have hbase : ((machine.cpu.pc + 2) :: machine.cpu.stack) <:+
          (machine.afterSteps rules (inside + 1)).cpu.stack :=
        suffix_of_call hcall fun i hi =>
          hinside (i + 1) (Nat.le_add_left 1 i) (Nat.succ_lt_succ (Nat.lt_succ_of_le hi))
      exact ret_of_suffix hbase hback
  · intro hcan hnext hempty
    have hexec : machine.advance.execute rules machine.nextInstruction = .ok machine.advance := by
      have hadvance : machine.advance.cpu.stack = [] := hempty
      simp only [hnext, execute, hadvance]
    rw [step_of_execute_eq_ok hcan hexec, hnext]
    exact ⟨rfl, hempty, rfl⟩

/-- A subroutine that calls another one, which turns the endless jump behind its own call into a
return. -/
theorem call_stack_discipline_self_modifying :
    let rules : Rules := ⟨{}, 16⟩
    let machine : Machine :=
      { cpu := { Cpu.initial.set 1 0xEE with index := 0x208, stack := [0x300] }
        memory := Memory.blank.store 0x200
          [0x22, 0x06, 0x00, 0x00, 0x00, 0x00, 0x22, 0x0A, 0x12, 0x08, 0xF1, 0x55, 0x00, 0xEE]
        screen := Screen.dark
        keypad := .released
        random := ⟨Vector.replicate 624 0, 0⟩ }
    (machine.step rules).value.result = .ok (.call 0x206) ∧
      (∀ i, 1 ≤ i → i < 5 → (machine.afterSteps rules i).cpu.stack.length ≠ 1) ∧
      ((machine.afterSteps rules 4).step rules).value.result = .ok .ret ∧
      (machine.afterSteps rules 5).cpu.stack = [0x300] ∧
      (machine.afterSteps rules 5).cpu.pc = 0x202 := by
  intro rules machine
  have hcan : machine.CanFetch := by decide
  have hnext : machine.nextInstruction = .call 0x206 := by decide +kernel
  have hcall : (machine.step rules).value.result = .ok (.call 0x206) := by
    rw [step_of_execute_eq_ok hcan (by rw [hnext]; rfl), hnext]
  have hdeep : ∀ i < 5, 1 ≤ i → (machine.afterSteps rules i).cpu.stack.length ≠ 1 := by
    decide +kernel
  have hinside : ∀ i, 1 ≤ i → i < 5 → (machine.afterSteps rules i).cpu.stack.length ≠ 1 :=
    fun i hlow hhigh => hdeep i hhigh hlow
  have hback : (machine.afterSteps rules 5).cpu.stack.length = 1 := by decide +kernel
  obtain ⟨-, hreturns, -⟩ := call_stack_discipline rules machine
  exact ⟨hcall, hinside, hreturns 0x206 5 hcall hinside (by decide) hback⟩

end Machine
end Chip8
