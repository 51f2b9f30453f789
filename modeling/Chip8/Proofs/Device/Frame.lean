import Chip8.Proofs.Device.Session

/-!
# Frames and single steps

A frame and a step reach the instructions on different ways: `Device.tick` breaks off its loop when
the device waits or stops, `Device.step` looks at both before it does anything.  A frame is a pass
of the timers and as many steps as the configuration says nevertheless (`Device.tick_eq_steps`), for
a step of a device that is not in operation changes nothing (`Device.steps_of_not_inOperation`).
What it does is to tell the host again that the program waits, where a frame says so once.

Frames are counted and timed, which instructions take no notice of (`Device.steps_withClock`).
-/

namespace Chip8

namespace Message

/-- Whether the message is that the program waits for a key. -/
def isWaiting : Message → Bool
  | waitingForKey _ => true
  | _ => false

/-- The messages that are not about a wait, in order. -/
def withoutWaits (messages : Array Message) : Array Message :=
  messages.filter (!·.isWaiting)

@[simp] theorem withoutWaits_empty : withoutWaits #[] = #[] := rfl

@[simp] theorem withoutWaits_append (first second : Array Message) :
    withoutWaits (first ++ second) = withoutWaits first ++ withoutWaits second :=
  Array.filter_append Array.size_append

end Message

namespace Device

/-- A number of single steps, with the messages and the log of all of them. -/
def steps (device : Device) : Nat → Ran
  | 0 => ⟨device, #[], #[]⟩
  | count + 1 =>
    let first := device.step
    let rest := first.device.steps count
    ⟨rest.device, first.messages ++ rest.messages, first.log ++ rest.log⟩

variable {device : Device}

/-! ## In operation and out of it -/

/-- All that a host is told of an instruction is that it was passed over or at fault. -/
theorem withoutWaits_messages_cycle (device : Device) :
    Message.withoutWaits device.cycle.messages = device.cycle.messages := by
  rcases cycle_cases device with ⟨fault, trace, -, hcycle⟩ | ⟨instruction, trace, hcycle⟩
  · rw [hcycle]
    rfl
  · rw [hcycle]
    cases instruction <;> rfl

theorem withoutWaits_waitMessages (device : Device) :
    Message.withoutWaits device.waitMessages = #[] := by
  unfold waitMessages
  split <;> rfl

/-- Steps of a device that is not in operation only say that it waits, if it does. -/
theorem steps_of_not_inOperation (h : ¬device.InOperation) (count : Nat) :
    (device.steps count).device = device ∧
      Message.withoutWaits (device.steps count).messages = #[] ∧
      (device.steps count).log = #[] := by
  induction count with
  | zero => exact ⟨rfl, rfl, rfl⟩
  | succ count ih =>
    obtain ⟨hdevice, hmessages, hlog⟩ := ih
    simp only [steps, step_of_not_inOperation h]
    refine ⟨hdevice, ?_, ?_⟩
    · rw [Message.withoutWaits_append, withoutWaits_waitMessages, hmessages]
      rfl
    · rw [hlog]
      rfl

/-- The instructions of a frame are single steps whose news of a wait are left out. -/
theorem cycles_eq_steps (count : Nat) (ran : Ran) :
    cycles count ran =
      { device := (ran.device.steps count).device
        messages := ran.messages ++ Message.withoutWaits (ran.device.steps count).messages
        log := ran.log ++ (ran.device.steps count).log } := by
  induction count generalizing ran with
  | zero => simp [cycles, steps]
  | succ count ih =>
    by_cases hoperation : ran.device.InOperation
    · rw [cycles_succ_of_inOperation hoperation, ih]
      simp only [Ran.another, steps, step_of_inOperation hoperation, Message.withoutWaits_append,
        withoutWaits_messages_cycle, Array.append_assoc]
    · obtain ⟨hdevice, hmessages, hlog⟩ := steps_of_not_inOperation hoperation (count + 1)
      rw [cycles_of_not_inOperation hoperation, hdevice, hmessages, hlog]
      simp

/-! ## The clock -/

theorem cycle_withClock (device : Device) (frames : Nat) (elapsed : Float) :
    (device.withClock frames elapsed).cycle =
      { device.cycle with device := device.cycle.device.withClock frames elapsed } := by
  unfold cycle
  simp only [withClock, rules]
  split <;> rfl

theorem step_withClock (device : Device) (frames : Nat) (elapsed : Float) :
    (device.withClock frames elapsed).step =
      { device.step with device := device.step.device.withClock frames elapsed } := by
  by_cases hoperation : device.InOperation
  · have hclock : (device.withClock frames elapsed).InOperation := hoperation
    rw [step_of_inOperation hoperation, step_of_inOperation hclock, cycle_withClock]
  · have hclock : ¬(device.withClock frames elapsed).InOperation := hoperation
    rw [step_of_not_inOperation hoperation, step_of_not_inOperation hclock]
    rfl

theorem steps_withClock (device : Device) (frames : Nat) (elapsed : Float) (count : Nat) :
    (device.withClock frames elapsed).steps count =
      { device.steps count with
        device := (device.steps count).device.withClock frames elapsed } := by
  induction count generalizing device with
  | zero => rfl
  | succ count ih => simp only [steps, step_withClock, ih]

/-! ## A frame -/

/-- A frame of a device that runs is a pass of the timers followed by single steps.  It is counted
and timed, and in place of the steps' news of a wait it has a single one, at the end and only if the
device waits then.  A device that does not run takes no notice of a frame. -/
theorem tick_eq_steps (device : Device) (delta : Float) :
    device.tick delta =
      if device.running then
        let ran := device.passTimers.steps device.config.cyclesPerFrame
        { device := { ran.device with
            frames := device.frames + 1
            elapsed := device.elapsed + delta }
          messages := Message.withoutWaits ran.messages ++
            if ran.device.running && ran.device.awaitingKey then
              #[.waitingForKey ran.device.machine.cpu.keyRegister]
            else #[]
          log := ran.log }
      else ⟨device, #[], #[]⟩ := by
  cases hrunning : device.running with
  | false => exact tick_of_not_running hrunning delta
  | true =>
    rw [tick_of_running hrunning]
    simp only [cycles_eq_steps, steps_withClock, Array.empty_append]
    rfl

end Device
end Chip8
