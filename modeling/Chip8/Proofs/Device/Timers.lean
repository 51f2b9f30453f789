import Chip8.Proofs.Device.Messages

/-!
# Timers and frames

A frame begins with a pass of the timers, and an instruction that sets a timer comes behind the pass
of its own frame.  So a timer counts down once for every frame that begins after it was set,
whatever happens in between: how many instructions the frames have, whether the program waits, and
how often it is single-stepped (`Device.timers_after_session`).

`Machine.trail` lists the machines at the instructions that are executed, from the machine's steps
alone, and `Timer.lastStored?` says what the instructions of such a list leave in a timer.  What a
request does to a timer is said by these two (`Device.timer_serve`).
-/

namespace Chip8

/-- Whether the request is for a frame. -/
def Request.isTick : Request → Bool
  | tick _ => true
  | _ => false

/-- Whether the request is for a frame that gets as far as the timers. -/
def Request.passesTimers : Request → Bool
  | tick (.ok _) => true
  | _ => false

namespace Timer

/-- What the instruction that a machine stands at puts into a timer, if it sets the timer. -/
def stored? (timer : Timer) (machine : Machine) : Option Int :=
  (timer.source? machine.nextInstruction).map machine.cpu.get

/-- What the last of some instructions that set a timer puts into it, if there is one. -/
def lastStored? (timer : Timer) (machines : List Machine) : Option Int :=
  (machines.filterMap timer.stored?).getLast?

variable (timer : Timer)

@[simp] theorem lastStored?_nil : timer.lastStored? [] = none := rfl

theorem lastStored?_append (early late : List Machine) :
    timer.lastStored? (early ++ late) = (timer.lastStored? late).or (timer.lastStored? early) := by
  rw [lastStored?, List.filterMap_append, List.getLast?_append]
  rfl

theorem lastStored?_cons (machine : Machine) (late : List Machine) :
    timer.lastStored? (machine :: late) = (timer.lastStored? late).or (timer.stored? machine) := by
  have hone : timer.lastStored? [machine] = timer.stored? machine := by
    unfold lastStored?
    cases hstored : timer.stored? machine with
    | none => simp [hstored]
    | some value => simp [hstored]
  rw [← hone, ← lastStored?_append, List.singleton_append]

theorem value_tickTimers (machine : Machine) :
    timer.value machine.tickTimers.cpu = Cpu.countDown (timer.value machine.cpu) := by
  cases timer <;> rfl

/-- A step puts into a timer what its instruction says, if it is carried out. -/
theorem value_step (rules : Rules) (machine : Machine) :
    timer.value (machine.step rules).value.machine.cpu =
      match (machine.step rules).value.result with
      | .ok _ => (timer.stored? machine).getD (timer.value machine.cpu)
      | .error _ => timer.value machine.cpu := by
  rcases Machine.step_footprint rules machine with ⟨fault, pc, hstep⟩ | ⟨next, -, hstep, hprint⟩
  · rw [hstep]
    cases timer <;> rfl
  · rw [hstep]
    refine (hprint.timer timer).trans ?_
    unfold stored?
    cases timer <;> cases Timer.source? _ machine.nextInstruction <;> rfl

end Timer

/-- A timer that is not below zero counts down to zero. -/
theorem Cpu.countDown_eq_max {value : Int} (h : 0 ≤ value) :
    Cpu.countDown value = max 0 (value - 1) := by
  unfold Cpu.countDown
  split <;> omega

namespace Device

variable {device : Device} {request : Request} {requests : List Request}

/-! ## What is executed and counted -/

/-- The machines at the instructions that are executed for a request.  Those of a frame come behind
the pass of its timers. -/
def trail (device : Device) : Request → List Machine
  | .tick (.ok _) =>
    if device.running then
      device.machine.tickTimers.trail device.rules device.config.cyclesPerFrame
    else []
  | .step => if device.running then device.machine.trail device.rules 1 else []
  | _ => []

/-- The machines at the instructions that are executed while some requests are served. -/
def trailDuring (device : Device) : List Request → List Machine
  | [] => []
  | request :: rest => device.trail request ++ (device.serve request).device.trailDuring rest

/-- How many requests of a kind are made while the device runs. -/
def countRunning (kind : Request → Bool) (device : Device) : List Request → Nat
  | [] => 0
  | request :: rest =>
    (if device.running && kind request then 1 else 0) +
      (device.serve request).device.countRunning kind rest

/-! ## One request -/

theorem device_step_eq (device : Device) :
    device.step.device = (cycles 1 ⟨device, #[], #[]⟩).device := by
  by_cases hoperation : device.InOperation
  · rw [step_of_inOperation hoperation, cycles_succ_of_inOperation hoperation]
    rfl
  · rw [step_of_not_inOperation hoperation, cycles_of_not_inOperation hoperation]

/-- The instructions of a frame leave in a timer what the last of them that sets it puts into it. -/
theorem timer_cycles (timer : Timer) {ran : Ran} (hrunning : ran.device.running = true)
    (count : Nat) :
    timer.value (cycles count ran).device.machine.cpu =
      (timer.lastStored? (ran.device.machine.trail ran.device.rules count)).getD
        (timer.value ran.device.machine.cpu) := by
  induction count generalizing ran with
  | zero => rfl
  | succ count ih =>
    have htimer := timer.value_step ran.device.rules ran.device.machine
    rcases cycles_succ_cases hrunning count with
      ⟨hwait, hcycles⟩ | ⟨next, fault, trace, -, hstep, hcycles, hanother⟩ |
      ⟨next, instruction, trace, hwait, hstep, hcycles, hanother⟩
    · rw [hcycles, Machine.trail_of_awaitingKey hwait]
      rfl
    · rw [hstep] at htimer
      rw [hcycles, hanother, Machine.trail_of_error hstep]
      exact htimer
    · rw [hstep] at htimer
      have hrest := ih (by rw [hanother]; exact hrunning)
      rw [hcycles, hrest, hanother, Machine.trail_succ_of_ok hwait hstep,
        Timer.lastStored?_cons, Option.getD_or]
      exact congrArg _ htimer

/-- What a request does to a timer: a pass if it is for a frame, and then what the instructions do
that are executed for it. -/
theorem timer_serve (timer : Timer) (hkeeps : request.keepsProgram = true) :
    timer.value (device.serve request).device.machine.cpu =
      (timer.lastStored? (device.trail request)).getD
        (if device.running && request.passesTimers then
          Cpu.countDown (timer.value device.machine.cpu)
        else timer.value device.machine.cpu) := by
  have hbecomes := becomes_serve device request
  generalize (device.serve request).device = later at hbecomes ⊢
  cases hbecomes with
  | reset | romRefused | romLoaded => cases hkeeps
  | ticked delta =>
    cases hrunning : device.running with
    | false =>
      rw [tick_of_not_running hrunning, trail, hrunning]
      rfl
    | true =>
      rw [tick_of_running hrunning, trail, hrunning, if_pos rfl, ← timer.value_tickTimers]
      exact timer_cycles timer hrunning device.config.cyclesPerFrame
  | stepped =>
    cases hrunning : device.running with
    | false =>
      rw [step, hrunning, trail, hrunning]
      rfl
    | true =>
      rw [device_step_eq, trail, hrunning, if_pos rfl]
      exact timer_cycles timer hrunning 1
  | resumed => cases timer <;> simp [trail, Request.passesTimers, resumedBy, Timer.value]
  | _ => simp [trail, Request.passesTimers, stop, countFrame]

theorem frames_cycle (device : Device) : device.cycle.device.frames = device.frames := by
  rcases cycle_cases device with ⟨fault, trace, -, hcycle⟩ | ⟨instruction, trace, hcycle⟩
  · rw [hcycle]
  · rw [hcycle]

/-- A frame is counted if the device runs, and whether or not it gets as far as the timers. -/
theorem frames_serve (hkeeps : request.keepsProgram = true) :
    (device.serve request).device.frames =
      device.frames + if device.running && request.isTick then 1 else 0 := by
  have hbecomes := becomes_serve device request
  generalize (device.serve request).device = later at hbecomes ⊢
  cases hbecomes with
  | reset | romRefused | romLoaded => cases hkeeps
  | ticked delta =>
    cases hrunning : device.running with
    | false =>
      rw [tick_of_not_running hrunning]
      rfl
    | true =>
      rw [tick_of_running hrunning]
      exact cycles_induction (motive := fun ran => ran.device.frames = device.frames + 1)
        (fun ran hframes _ => (frames_cycle ran.device).trans hframes) _ rfl
  | untimed reason hrunning =>
    rw [hrunning]
    rfl
  | untimedIdle reason hstopped =>
    rw [hstopped]
    rfl
  | stepped =>
    have hframes : device.step.device.frames = device.frames :=
      step_induction (motive := fun other => other.frames = device.frames)
        (fun other hframes _ => (frames_cycle other).trans hframes) rfl
    simp [hframes, Request.isTick]
  | _ => simp [Request.isTick, stop, resumedBy]

/-! ## Sessions -/

theorem frames_after (hkeeps : ∀ request ∈ requests, request.keepsProgram = true) :
    (device.after requests).frames =
      device.frames + device.countRunning Request.isTick requests := by
  induction requests generalizing device with
  | nil => rfl
  | cons request rest ih =>
    obtain ⟨hfirst, hrest⟩ := List.forall_mem_cons.1 hkeeps
    rw [after_cons, ih hrest, frames_serve hfirst, countRunning]
    omega

/-- Two kinds that agree about some requests count the same among them. -/
theorem countRunning_congr {kind other : Request → Bool}
    (h : ∀ request ∈ requests, kind request = other request) :
    device.countRunning kind requests = device.countRunning other requests := by
  induction requests generalizing device with
  | nil => rfl
  | cons request rest ih =>
    obtain ⟨hfirst, hrest⟩ := List.forall_mem_cons.1 h
    rw [countRunning, countRunning, hfirst, ih hrest]

theorem Reachable.timer_nonneg (h : device.Reachable) (timer : Timer) :
    0 ≤ timer.value device.machine.cpu := by
  cases timer with
  | delay => exact h.sound.machine.cpu.delay.1
  | sound => exact h.sound.machine.cpu.sound.1

/-- A timer that no instruction sets counts down once for each frame. -/
theorem timer_after_of_none (h : device.Reachable) (timer : Timer)
    (hkeeps : ∀ request ∈ requests, request.keepsProgram = true)
    (hnone : timer.lastStored? (device.trailDuring requests) = none) :
    timer.value (device.after requests).machine.cpu =
      max 0 (timer.value device.machine.cpu -
        device.countRunning Request.passesTimers requests) := by
  induction requests generalizing device with
  | nil =>
    have hvalue := h.timer_nonneg timer
    rw [after_nil, countRunning]
    omega
  | cons request rest ih =>
    obtain ⟨hfirst, hrest⟩ := List.forall_mem_cons.1 hkeeps
    rw [trailDuring, Timer.lastStored?_append, Option.or_eq_none_iff] at hnone
    obtain ⟨hlater, hnow⟩ := hnone
    have hserved := @timer_serve device request timer hfirst
    have hvalue := h.timer_nonneg timer
    rw [hnow, Option.getD_none, Cpu.countDown_eq_max hvalue] at hserved
    rw [after_cons, ih (h.served request) hrest hlater, hserved, countRunning]
    split <;> omega

/-- A timer that an instruction sets counts down from there, once for each frame that begins
afterwards, which the frame of the instruction itself does not. -/
theorem timer_after_of_some (h : device.Reachable) (timer : Timer) {value : Int}
    (hkeeps : ∀ request ∈ requests, request.keepsProgram = true)
    (hlast : timer.lastStored? (device.trailDuring requests) = some value) :
    ∃ early request late, requests = early ++ request :: late ∧
      timer.lastStored? ((device.after early).trail request) = some value ∧
      timer.lastStored? (((device.after early).serve request).device.trailDuring late) = none ∧
      timer.value (device.after requests).machine.cpu =
        max 0 (value -
          ((device.after early).serve request).device.countRunning Request.passesTimers late) := by
  induction requests generalizing device with
  | nil => cases hlast
  | cons request rest ih =>
    obtain ⟨hfirst, hrest⟩ := List.forall_mem_cons.1 hkeeps
    rw [trailDuring, Timer.lastStored?_append] at hlast
    -- Either a later request sets the timer again, or none does and this one was the last.
    cases hlater : timer.lastStored? ((device.serve request).device.trailDuring rest) with
    | some later =>
      rw [hlater, Option.some_or] at hlast
      obtain ⟨early, setting, late, rfl, hstored, hnone, hvalue⟩ :=
        ih (h.served request) hrest (hlater.trans hlast)
      exact ⟨request :: early, setting, late, rfl, hstored, hnone, hvalue⟩
    | none =>
      rw [hlater, Option.none_or] at hlast
      have hserved := @timer_serve device request timer hfirst
      rw [hlast, Option.getD_some] at hserved
      have hvalue := timer_after_of_none (h.served request) timer hrest hlater
      rw [hserved] at hvalue
      exact ⟨[], request, rest, rfl, hlast, hlater, hvalue⟩

/-- A frame is counted for every tick of a device that runs.  A timer that is set by no instruction
goes down by one for each of these ticks, and one that is set goes down from the value that it was
last set to, by one for each of those ticks that come after the request in which it was set.  Below
zero it does not go.  A tick without a number for its time is counted, and does not get as far as
the timers. -/
theorem timers_after_session (h : device.Reachable) (requests : List Request)
    (hkeeps : ∀ request ∈ requests, request.keepsProgram = true) :
    let later := device.after requests
    later.frames = device.frames + device.countRunning Request.isTick requests ∧
      ((∀ reason, Request.tick (.error reason) ∉ requests) →
        ∀ (other : Device) (part : List Request), part ⊆ requests →
          other.countRunning Request.isTick part = other.countRunning Request.passesTimers part) ∧
      ∀ timer : Timer,
        (timer.lastStored? (device.trailDuring requests) = none →
          timer.value later.machine.cpu =
            max 0 (timer.value device.machine.cpu -
              device.countRunning Request.passesTimers requests)) ∧
        ∀ value, timer.lastStored? (device.trailDuring requests) = some value →
          ∃ early request late, requests = early ++ request :: late ∧
            timer.lastStored? ((device.after early).trail request) = some value ∧
            timer.lastStored? (((device.after early).serve request).device.trailDuring late) =
              none ∧
            timer.value later.machine.cpu =
              max 0 (value - ((device.after early).serve request).device.countRunning
                Request.passesTimers late) := by
  intro later
  refine ⟨frames_after hkeeps, fun htimed other part hpart => ?_, fun timer => ⟨?_, ?_⟩⟩
  · refine countRunning_congr fun request hmem => ?_
    match request with
    | .tick (.error reason) => exact absurd (hpart hmem) (htimed reason)
    | .tick (.ok _) | .start | .stop | .reset | .loadRom _ | .loadFont _ _ | .setKey _ _ | .step =>
      rfl
  · exact timer_after_of_none h timer hkeeps
  · intro value hlast
    exact timer_after_of_some h timer hkeeps hlast

/-- A frame of one instruction that sets the delay timer, with the sound timer set before it, and
after it a step, a stop, and ticks of all sorts. -/
theorem timers_after_session_interrupted :
    let config : Config := { Config.standard with cyclesPerFrame := 1 }
    ∃ created, Device.create config 0 = .ok created ∧
      let device := created.after
        [.loadRom [0x60, 0x05, 0xF0, 0x18, 0x60, 0x07, 0xF0, 0x15, 0x12, 0x08], .start, .step,
          .step, .step]
      let requests : List Request :=
        [.tick (.ok 0), .step, .stop, .tick (.ok 0), .start, .tick (.error (.other "no time")),
          .tick (.ok 0)]
      device.Reachable ∧ (∀ request ∈ requests, request.keepsProgram = true) ∧
        (device.after requests).frames = 3 ∧
        (device.after requests).machine.cpu.sound = 3 ∧
        ∃ early request late, requests = early ++ request :: late ∧
          Timer.delay.value (device.after requests).machine.cpu =
            max 0 ((7 : Int) - ((device.after early).serve request).device.countRunning
              Request.passesTimers late) := by
  intro config
  refine ⟨_, rfl, ?_⟩
  intro device requests
  have hreachable : device.Reachable := (@Reachable.created config 0 _ rfl).after _
  have hkeeps : ∀ request ∈ requests, request.keepsProgram = true := by decide +kernel
  have hnone : Timer.sound.lastStored? (device.trailDuring requests) = none := by decide +kernel
  have hseven : Timer.delay.lastStored? (device.trailDuring requests) = some 7 := by
    decide +kernel
  obtain ⟨hframes, -, htimers⟩ := timers_after_session hreachable requests hkeeps
  obtain ⟨early, request, late, hsplit, -, -, hdelay⟩ := (htimers .delay).2 7 hseven
  refine ⟨hreachable, hkeeps, ?_, ?_, early, request, late, hsplit, hdelay⟩
  · rw [hframes]
    decide +kernel
  · refine ((htimers .sound).1 hnone).trans ?_
    decide +kernel

end Device
end Chip8
