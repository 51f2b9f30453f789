import Chip8.Proofs.Machine.Footprint

/-!
# What the switches act on

How a program runs depends on its registers, memory and screen, and besides on things that it cannot
set itself: the dialect, the depth of the stack, the keys that are down and the random bytes, which
are its `Surroundings`.  Each of them is a `Switch`, and an instruction goes by one switch at most
(`Instruction.switch?`).

Two machines that are alike but for their surroundings therefore take the same step, unless the
step is one of an instruction that goes by a switch in which they differ (`Machine.step_alike`).  A
run of one of them is then a run of the other, up to the first such instruction
(`Machine.lockstep`).
-/

namespace Chip8

/-- What the run of a program depends on besides what the program itself has built up. -/
structure Surroundings where
  rules : Rules
  keypad : Keypad
  random : Twister

/-- A part of the surroundings that instructions can go by. -/
inductive Switch where
  | logicClearsFlag
  | transferAdvancesIndex
  | shiftReadsY
  | clipsSprites
  | jumpReadsX
  | stackLimit
  | keypad
  | random

/-- Whether two surroundings differ in a part. -/
def Switch.differs (first second : Surroundings) : Switch → Bool
  | logicClearsFlag => first.rules.dialect.logicClearsFlag != second.rules.dialect.logicClearsFlag
  | transferAdvancesIndex =>
    first.rules.dialect.transferAdvancesIndex != second.rules.dialect.transferAdvancesIndex
  | shiftReadsY => first.rules.dialect.shiftReadsY != second.rules.dialect.shiftReadsY
  | clipsSprites => first.rules.dialect.clipsSprites != second.rules.dialect.clipsSprites
  | jumpReadsX => first.rules.dialect.jumpReadsX != second.rules.dialect.jumpReadsX
  | stackLimit => first.rules.stackLimit != second.rules.stackLimit
  | keypad => first.keypad != second.keypad
  | random => first.random != second.random

namespace Instruction

/-- The switch that an instruction goes by, for the instructions that go by one. -/
def switch? : Instruction → Option Switch
  | alu .or _ _ | alu .and _ _ | alu .xor _ _ => some .logicClearsFlag
  | storeRegisters _ | loadRegisters _ => some .transferAdvancesIndex
  | alu .shiftRight _ _ | alu .shiftLeft _ _ => some .shiftReadsY
  | draw _ _ _ => some .clipsSprites
  | jumpOffset _ => some .jumpReadsX
  | call _ => some .stackLimit
  | skip (.keyDown _) | skip (.keyUp _) => some .keypad
  | .random _ _ => some .random
  | _ => none

/-- Whether an instruction goes by something in which two surroundings differ. -/
def isGoverned (first second : Surroundings) (i : Instruction) : Bool :=
  i.switch?.any (Switch.differs first second)

theorem isGoverned_eq_false_iff {first second : Surroundings} {i : Instruction} :
    i.isGoverned first second = false ↔
      ∀ switch, i.switch? = some switch → switch.differs first second = false := by
  unfold isGoverned
  cases i.switch? <;> simp

end Instruction

namespace Machine

variable {rules rules' : Rules} {machine first second : Machine} {i : Instruction}

/-- What a machine's program cannot set itself. -/
def surroundings (rules : Rules) (machine : Machine) : Surroundings :=
  ⟨rules, machine.keypad, machine.random⟩

/-- Two machines that differ in their surroundings at most. -/
structure Alike (first second : Machine) : Prop where
  cpu : first.cpu = second.cpu
  memory : first.memory = second.memory
  screen : first.screen = second.screen

/-- The machine with another keypad and other random bytes. -/
def within (machine : Machine) (keypad : Keypad) (random : Twister) : Machine :=
  { machine with keypad, random }

theorem alike_within (machine : Machine) (keypad : Keypad) (random : Twister) :
    Alike machine (machine.within keypad random) :=
  ⟨rfl, rfl, rfl⟩

theorem Alike.exists_eq_within (h : Alike first second) :
    ∃ keypad random, second = first.within keypad random := by
  obtain ⟨hcpu, hmemory, hscreen⟩ := h
  refine ⟨second.keypad, second.random, ?_⟩
  rw [within, hcpu, hmemory, hscreen]

/-! ## One step -/

/-- In surroundings that agree in what an instruction goes by, the instruction does the same. -/
theorem execute_within (machine : Machine) {keypad : Keypad} {random : Twister}
    (hfree : i.isGoverned (machine.surroundings rules)
      ((machine.within keypad random).surroundings rules') = false) :
    (machine.within keypad random).execute rules' i =
      (machine.execute rules i).map (·.within keypad (i.randomAfter random)) := by
  -- Where an instruction has a switch, both sides come to read the same by it; the others read
  -- nothing of the surroundings.
  have hagree := Instruction.isGoverned_eq_false_iff.1 hfree
  unfold within
  cases i with
  | ret =>
    simp only [execute]
    split <;> rfl
  | call target =>
    have hlimit : rules.stackLimit = rules'.stackLimit := bne_eq_false_iff_eq.1 (hagree _ rfl)
    simp only [execute, hlimit]
    split <;> rfl
  | jumpOffset target =>
    have hflag : rules.dialect.jumpReadsX = rules'.dialect.jumpReadsX :=
      bne_eq_false_iff_eq.1 (hagree _ rfl)
    simp only [execute, Cpu.offsetRegister, hflag]
    rfl
  | skip condition =>
    have hholds : condition.holds machine.cpu machine.keypad =
        condition.holds machine.cpu keypad := by
      cases condition with
      | keyDown x | keyUp x =>
        have hkeypad : machine.keypad = keypad := bne_eq_false_iff_eq.1 (hagree _ rfl)
        rw [hkeypad]
      | _ => rfl
    simp only [execute, hholds]
    split <;> rfl
  | alu function x y =>
    have heval : ∀ a b, function.eval rules.dialect a b = function.eval rules'.dialect a b := by
      intro a b
      cases function with
      | or | and | xor =>
        have hflag : rules.dialect.logicClearsFlag = rules'.dialect.logicClearsFlag :=
          bne_eq_false_iff_eq.1 (hagree _ rfl)
        simp only [Alu.eval, hflag]
      | shiftRight | shiftLeft =>
        have hflag : rules.dialect.shiftReadsY = rules'.dialect.shiftReadsY :=
          bne_eq_false_iff_eq.1 (hagree _ rfl)
        simp only [Alu.eval, hflag]
      | _ => rfl
    simp only [execute, Cpu.combine, heval]
    rfl
  | random x kk =>
    have hrandom : machine.random = random := bne_eq_false_iff_eq.1 (hagree _ rfl)
    subst hrandom
    rfl
  | draw x y n =>
    have hflag : rules.dialect.clipsSprites = rules'.dialect.clipsSprites :=
      bne_eq_false_iff_eq.1 (hagree _ rfl)
    simp only [execute, drawSprite, hflag]
    cases machine.memory.readBlock machine.cpu.index n.val <;> rfl
  | storeDecimal x =>
    simp only [execute]
    cases machine.memory.writeBlock machine.cpu.index (decimalDigits (machine.cpu.get x)) <;> rfl
  | storeRegisters x =>
    have hflag : rules.dialect.transferAdvancesIndex = rules'.dialect.transferAdvancesIndex :=
      bne_eq_false_iff_eq.1 (hagree _ rfl)
    simp only [execute, Cpu.indexBehind, hflag]
    cases machine.memory.writeBlock machine.cpu.index (machine.cpu.upTo x) <;> rfl
  | loadRegisters x =>
    have hflag : rules.dialect.transferAdvancesIndex = rules'.dialect.transferAdvancesIndex :=
      bne_eq_false_iff_eq.1 (hagree _ rfl)
    simp only [execute, Cpu.indexBehind, hflag]
    cases machine.memory.readBlock machine.cpu.index (x.val + 1) <;> rfl
  | _ => rfl

/-- Two machines that are alike take the same step and are alike after it, unless the step is one of
an instruction that goes by something in which they differ. -/
theorem step_alike (halike : Alike first second)
    (hfree : first.CanFetch → first.nextInstruction.isGoverned (first.surroundings rules)
      (second.surroundings rules') = false) :
    Alike (first.step rules).value.machine (second.step rules').value.machine ∧
      (first.step rules).value.result = (second.step rules').value.result ∧
      (first.step rules).trace = (second.step rules').trace := by
  obtain ⟨keypad, random, rfl⟩ := halike.exists_eq_within
  rcases step_cases rules first with
    ⟨cause, hfetch, hstep⟩ | ⟨cause, hcan, hexec, hstep⟩ | ⟨next, hcan, hexec, hstep⟩
  · have hfetch' : (first.within keypad random).fetch = .error cause := by
      rw [fetch_eq_error_iff] at hfetch ⊢
      exact hfetch
    rw [hstep, step_of_fetch_eq_error rules' hfetch']
    exact ⟨alike_within _ _ _, rfl, rfl⟩
  · have hcan' : (first.within keypad random).CanFetch := hcan
    have hexec' := execute_within first.advance (hfree hcan)
    rw [hexec] at hexec'
    rw [hstep, step_of_execute_eq_error hcan' hexec']
    exact ⟨alike_within _ _ _, rfl, rfl⟩
  · have hcan' : (first.within keypad random).CanFetch := hcan
    have hexec' := execute_within first.advance (hfree hcan)
    rw [hexec] at hexec'
    rw [hstep, step_of_execute_eq_ok hcan' hexec']
    exact ⟨alike_within _ _ _, rfl, rfl⟩

/-! ## Runs -/

theorem keypad_afterSteps (rules : Rules) (machine : Machine) (count : Nat) :
    (machine.afterSteps rules count).keypad = machine.keypad := by
  induction count with
  | zero => rfl
  | succ count ih => rw [afterSteps, keypad_step, ih]

/-- The keys of two machines stay as they are, and random bytes that are equal stay equal while the
machines take the same steps.  So no instruction comes to be governed later on. -/
theorem isGoverned_of_later {later later' : Machine} (hkeypad : later.keypad = first.keypad)
    (hkeypad' : later'.keypad = second.keypad)
    (hrandom : first.random = second.random → later.random = later'.random)
    (hfree : i.isGoverned (first.surroundings rules) (second.surroundings rules') = false) :
    i.isGoverned (later.surroundings rules) (later'.surroundings rules') = false := by
  rw [Instruction.isGoverned_eq_false_iff] at hfree ⊢
  intro switch hswitch
  have hagree := hfree switch hswitch
  cases switch with
  | keypad =>
    simp only [Switch.differs, surroundings, hkeypad, hkeypad'] at hagree ⊢
    exact hagree
  | random => exact bne_eq_false_iff_eq.2 (hrandom (bne_eq_false_iff_eq.1 hagree))
  | _ => exact hagree

/-- While a machine executes nothing that goes by a difference, another one that is alike stays so,
and equal random bytes stay equal. -/
theorem alike_afterSteps (halike : Alike first second) {count : Nat}
    (hfree : ∀ i < count, (first.afterSteps rules i).CanFetch →
      (first.afterSteps rules i).nextInstruction.isGoverned (first.surroundings rules)
        (second.surroundings rules') = false) :
    Alike (first.afterSteps rules count) (second.afterSteps rules' count) ∧
      (first.random = second.random →
        (first.afterSteps rules count).random = (second.afterSteps rules' count).random) := by
  induction count with
  | zero => exact ⟨halike, id⟩
  | succ count ih =>
    obtain ⟨hbefore, hrandom⟩ := ih fun i hi => hfree i (Nat.lt_succ_of_lt hi)
    obtain ⟨hafter, hresult, -⟩ := step_alike hbefore fun hcan =>
      isGoverned_of_later (keypad_afterSteps _ _ _) (keypad_afterSteps _ _ _) hrandom
        (hfree count (Nat.lt_succ_self _) hcan)
    refine ⟨hafter, fun hequal => ?_⟩
    rw [afterSteps, afterSteps, random_step, random_step, hresult, hrandom hequal]

/-- Two machines that are alike but for their rules, their keypads and their random bytes run alike
for as long as the first of them executes no instruction that goes by something in which they
differ.  They execute the same instructions, meet the same faults at the same steps, put the same on
record, and have the same registers, stack, timers, memory and screen after every step. -/
theorem lockstep (rules rules' : Rules) (first second : Machine) (count : Nat)
    (halike : Alike first second)
    (hfree : ∀ i < count, (first.afterSteps rules i).CanFetch →
      (first.afterSteps rules i).nextInstruction.isGoverned (first.surroundings rules)
        (second.surroundings rules') = false) :
    (∀ i ≤ count, Alike (first.afterSteps rules i) (second.afterSteps rules' i)) ∧
      ∀ i < count,
        ((first.afterSteps rules i).step rules).value.result =
            ((second.afterSteps rules' i).step rules').value.result ∧
          ((first.afterSteps rules i).step rules).trace =
            ((second.afterSteps rules' i).step rules').trace := by
  have hupTo : ∀ i ≤ count, ∀ k < i, (first.afterSteps rules k).CanFetch →
      (first.afterSteps rules k).nextInstruction.isGoverned (first.surroundings rules)
        (second.surroundings rules') = false :=
    fun i hi k hk => hfree k (Nat.lt_of_lt_of_le hk hi)
  refine ⟨fun i hi => (alike_afterSteps halike (hupTo i hi)).1, fun i hi => ?_⟩
  obtain ⟨hbefore, hrandom⟩ := alike_afterSteps halike (hupTo i (Nat.le_of_lt hi))
  exact (step_alike hbefore fun hcan => isGoverned_of_later (keypad_afterSteps _ _ _)
    (keypad_afterSteps _ _ _) hrandom (hfree i hi hcan)).2

/-- Two machines that differ in everything but what the program can set.  The program writes over
the call that it would have come to, and runs on to a place where it cannot fetch. -/
theorem lockstep_past_overwritten_call :
    let rules : Rules := ⟨{}, 16⟩
    let rules' : Rules := ⟨⟨true, true, true, true, true⟩, 0⟩
    let first : Machine :=
      { cpu := Cpu.initial.set 1 120
        memory := Memory.blank.store 0x200
          [0xA2, 0x04, 0xF1, 0x33, 0x23, 0x00, 0x00, 0xE0, 0x1F, 0xFF]
        screen := Screen.dark
        keypad := .released
        random := ⟨Vector.replicate 624 0, 0⟩ }
    let second := first.within (Keypad.released.set 5 true) ⟨Vector.replicate 624 0, 1⟩
    (∀ switch : Switch,
        switch.differs (first.surroundings rules) (second.surroundings rules') = true) ∧
      (∀ i < 6, (first.afterSteps rules i).CanFetch →
        (first.afterSteps rules i).nextInstruction.isGoverned (first.surroundings rules)
          (second.surroundings rules') = false) ∧
      (∀ i ≤ 6, Alike (first.afterSteps rules i) (second.afterSteps rules' i)) ∧
      ((first.afterSteps rules 5).step rules).value.result =
        ((second.afterSteps rules' 5).step rules').value.result := by
  intro rules rules' first second
  have hdiffer : ∀ switch : Switch,
      switch.differs (first.surroundings rules) (second.surroundings rules') = true := by
    intro switch
    cases switch with
    | random =>
      refine bne_iff_ne.2 fun hrandom => ?_
      have hdrawn : 0 = 1 := congrArg Twister.drawn hrandom
      cases hdrawn
    | _ => decide +kernel
  have hfree : ∀ i < 6, (first.afterSteps rules i).CanFetch →
      (first.afterSteps rules i).nextInstruction.isGoverned (first.surroundings rules)
        (second.surroundings rules') = false := by
    decide +kernel
  obtain ⟨halike, hresults⟩ :=
    lockstep rules rules' first second 6 (alike_within _ _ _) hfree
  exact ⟨hdiffer, hfree, halike, (hresults 5 (by decide)).1⟩

end Machine
end Chip8
