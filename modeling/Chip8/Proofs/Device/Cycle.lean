import Chip8.Device
import Chip8.Proofs.Machine.Footprint

/-!
# Instructions under a host

`Device.cycle` runs an instruction and `Device.cycles` some of them.  Here is what each of them
makes of a device in terms of `Machine.step`: an instruction that ran changes the machine and
nothing else (`Device.cycle_of_ok`), a fault halts the device as well (`Device.cycle_of_error`), and
a property that every cycle of a device in operation keeps is kept by any number of cycles
(`Device.cycles_induction`).
-/

namespace Chip8

/-- What a host is told about an instruction that ran. -/
def Instruction.messages : Instruction → Array Message
  | unknown word => #[.unknownOpcode word]
  | _ => #[]

namespace Device

variable {device : Device}

/-- The device runs, and its program waits for no key. -/
def InOperation (device : Device) : Prop :=
  device.running = true ∧ device.awaitingKey = false

theorem cycle_of_ok {next : Machine} {instruction : Instruction} {trace : Array Log.Entry}
    (h : device.machine.step device.rules = ⟨⟨next, .ok instruction⟩, trace⟩) :
    device.cycle = ⟨{ device with machine := next }, instruction.messages, trace⟩ := by
  unfold cycle
  rw [h]
  cases instruction <;> rfl

theorem cycle_of_error {next : Machine} {fault : Fault} {trace : Array Log.Entry}
    (h : device.machine.step device.rules = ⟨⟨next, .error fault⟩, trace⟩) :
    device.cycle =
      ⟨{ device with machine := next, fault := some fault, running := false }, #[.fault fault],
        trace.push (.faulted fault)⟩ := by
  unfold cycle
  rw [h]

/-- A cycle does with the machine what a step does.  Either it ends in a fault, which halts the
device, or the rest of the device stays. -/
theorem cycle_cases (device : Device) :
    (∃ (fault : Fault) (trace : Array Log.Entry),
      (device.machine.step device.rules).value.machine.cpu.awaitingKey = device.awaitingKey ∧
      device.cycle =
        ⟨{ device with
            machine := (device.machine.step device.rules).value.machine
            fault := some fault
            running := false }, #[.fault fault], trace⟩) ∨
    (∃ (instruction : Instruction) (trace : Array Log.Entry), device.cycle =
      ⟨{ device with machine := (device.machine.step device.rules).value.machine },
        instruction.messages, trace⟩) := by
  rcases Machine.step_cases device.rules device.machine with
    ⟨cause, -, hstep⟩ | ⟨cause, -, -, hstep⟩ | ⟨next, -, -, hstep⟩
  · rw [cycle_of_error hstep, hstep]
    exact Or.inl ⟨_, _, rfl, rfl⟩
  · rw [cycle_of_error hstep, hstep]
    exact Or.inl ⟨_, _, rfl, rfl⟩
  · rw [cycle_of_ok hstep, hstep]
    exact Or.inr ⟨_, _, rfl⟩

/-! ## Some cycles -/

/-- One cycle more, with its messages and its log behind those of the cycles before. -/
def Ran.another (ran : Ran) : Ran :=
  ⟨ran.device.cycle.device, ran.messages ++ ran.device.cycle.messages,
    ran.log ++ ran.device.cycle.log⟩

theorem cycles_of_not_inOperation {ran : Ran} (h : ¬ran.device.InOperation) (count : Nat) :
    cycles count ran = ran := by
  cases count with
  | zero => rfl
  | succ count =>
    unfold cycles
    rw [if_pos]
    unfold InOperation at h
    cases hrunning : ran.device.running <;> cases hwait : ran.device.awaitingKey <;> simp_all

theorem cycles_succ_of_inOperation {ran : Ran} (h : ran.device.InOperation) (count : Nat) :
    cycles (count + 1) ran = cycles count ran.another := by
  rw [cycles, if_neg (by simp [h.1, h.2])]
  rfl

theorem cycles_one_of_inOperation (hoperation : device.InOperation) :
    cycles 1 ⟨device, #[], #[]⟩ = device.cycle := by
  rw [cycles_succ_of_inOperation hoperation, cycles, Ran.another, Array.empty_append,
    Array.empty_append]

/-- Cycles on a device that runs end at a wait, or with a fault, or go on behind an instruction. -/
theorem cycles_succ_cases {ran : Ran} (hrunning : ran.device.running = true) (count : Nat) :
    (ran.device.awaitingKey = true ∧ cycles (count + 1) ran = ran) ∨
    (∃ next fault trace, ran.device.awaitingKey = false ∧
      ran.device.machine.step ran.device.rules = ⟨⟨next, .error fault⟩, trace⟩ ∧
      cycles (count + 1) ran = ran.another ∧
      ran.another.device =
        { ran.device with machine := next, fault := some fault, running := false }) ∨
    (∃ next instruction trace, ran.device.awaitingKey = false ∧
      ran.device.machine.step ran.device.rules = ⟨⟨next, .ok instruction⟩, trace⟩ ∧
      cycles (count + 1) ran = cycles count ran.another ∧
      ran.another.device = { ran.device with machine := next }) := by
  cases hwait : ran.device.awaitingKey with
  | true =>
    have hsuspended : ¬ran.device.InOperation := fun hoperation => by
      simp [hoperation.2] at hwait
    exact Or.inl ⟨rfl, cycles_of_not_inOperation hsuspended _⟩
  | false =>
    right
    have hcycles : cycles (count + 1) ran = cycles count ran.another :=
      cycles_succ_of_inOperation ⟨hrunning, hwait⟩ count
    rcases hstep : ran.device.machine.step ran.device.rules with
      ⟨⟨next, fault | instruction⟩, trace⟩
    · have hanother : ran.another.device =
          { ran.device with machine := next, fault := some fault, running := false } := by
        rw [Ran.another, cycle_of_error hstep]
      have hhalted : ¬ran.another.device.InOperation := fun hoperation => by
        simp [hanother, InOperation] at hoperation
      rw [cycles_of_not_inOperation hhalted] at hcycles
      exact Or.inl ⟨next, fault, trace, rfl, rfl, hcycles, hanother⟩
    · have hanother : ran.another.device = { ran.device with machine := next } := by
        rw [Ran.another, cycle_of_ok hstep]
      exact Or.inr ⟨next, instruction, trace, rfl, rfl, hcycles, hanother⟩

/-- What every cycle of a device in operation keeps, any number of cycles keep. -/
theorem cycles_induction {motive : Ran → Prop}
    (hanother : ∀ ran, motive ran → ran.device.InOperation → motive ran.another)
    (count : Nat) {ran : Ran} (h : motive ran) : motive (cycles count ran) := by
  induction count generalizing ran with
  | zero => exact h
  | succ count ih =>
    by_cases hoperation : ran.device.InOperation
    · rw [cycles_succ_of_inOperation hoperation]
      exact ih (hanother ran h hoperation)
    · rw [cycles_of_not_inOperation hoperation]
      exact h

/-! ## Frames and steps -/

/-- The device after a pass of the timers. -/
def passTimers (device : Device) : Device :=
  { device with machine := device.machine.tickTimers }

/-- The device with another number of frames and another time for them. -/
def withClock (device : Device) (frames : Nat) (elapsed : Float) : Device :=
  { device with frames, elapsed }

theorem tick_of_running (h : device.running = true) (delta : Float) :
    device.tick delta =
      let started := device.passTimers.withClock (device.frames + 1) (device.elapsed + delta)
      let ran := cycles device.config.cyclesPerFrame ⟨started, #[], #[]⟩
      { ran with messages := ran.messages ++ ran.device.waitMessages } := by
  unfold tick
  rw [if_neg (by simp [h])]
  rfl

theorem tick_of_not_running (h : device.running = false) (delta : Float) :
    device.tick delta = ⟨device, #[], #[]⟩ := by
  unfold tick
  rw [if_pos (by simp [h])]

theorem step_of_inOperation (h : device.InOperation) : device.step = device.cycle := by
  unfold step
  rw [if_neg (by simp [h.1]), if_neg (by simp [h.2])]

theorem step_of_not_inOperation (h : ¬device.InOperation) :
    device.step = ⟨device, device.waitMessages, #[]⟩ := by
  unfold step waitMessages
  unfold InOperation at h
  cases hrunning : device.running <;> cases hwait : device.awaitingKey <;> simp_all

/-- What every cycle of a device in operation keeps, and the timers and the clock do not concern, a
frame keeps. -/
theorem tick_induction {motive : Device → Prop}
    (hcycle : ∀ device, motive device → device.InOperation → motive device.cycle.device)
    (delta : Float) (h : motive device)
    (hstarted : motive (device.passTimers.withClock (device.frames + 1) (device.elapsed + delta))) :
    motive (device.tick delta).device := by
  cases hrunning : device.running with
  | false =>
    rw [tick_of_not_running hrunning]
    exact h
  | true =>
    rw [tick_of_running hrunning]
    exact cycles_induction (motive := fun ran => motive ran.device)
      (fun ran => hcycle ran.device) _ hstarted

/-- What every cycle of a device in operation keeps, a step keeps. -/
theorem step_induction {motive : Device → Prop}
    (hcycle : ∀ device, motive device → device.InOperation → motive device.cycle.device)
    (h : motive device) : motive device.step.device := by
  by_cases hoperation : device.InOperation
  · rw [step_of_inOperation hoperation]
    exact hcycle device h hoperation
  · rw [step_of_not_inOperation hoperation]
    exact h

/-! ## What no instruction changes -/

theorem config_cycle (device : Device) : device.cycle.device.config = device.config := by
  rcases cycle_cases device with ⟨fault, trace, -, hcycle⟩ | ⟨instruction, trace, hcycle⟩
  · rw [hcycle]
  · rw [hcycle]

theorem keypad_cycle (device : Device) :
    device.cycle.device.machine.keypad = device.machine.keypad := by
  have hstep := Machine.keypad_step device.rules device.machine
  rcases cycle_cases device with ⟨fault, trace, -, hcycle⟩ | ⟨instruction, trace, hcycle⟩
  · rw [hcycle]
    exact hstep
  · rw [hcycle]
    exact hstep

theorem config_tick (device : Device) (delta : Float) :
    (device.tick delta).device.config = device.config :=
  tick_induction (motive := fun other => other.config = device.config)
    (fun other hconfig _ => (config_cycle other).trans hconfig) delta rfl rfl

theorem config_step (device : Device) : device.step.device.config = device.config :=
  step_induction (motive := fun other => other.config = device.config)
    (fun other hconfig _ => (config_cycle other).trans hconfig) rfl

theorem keypad_tick (device : Device) (delta : Float) :
    (device.tick delta).device.machine.keypad = device.machine.keypad :=
  tick_induction (motive := fun other => other.machine.keypad = device.machine.keypad)
    (fun other hkeypad _ => (keypad_cycle other).trans hkeypad) delta rfl rfl

theorem keypad_step (device : Device) :
    device.step.device.machine.keypad = device.machine.keypad :=
  step_induction (motive := fun other => other.machine.keypad = device.machine.keypad)
    (fun other hkeypad _ => (keypad_cycle other).trans hkeypad) rfl

end Device
end Chip8
