import Chip8.Proofs.Device.Bounds
import Chip8.Proofs.Machine.Trail

/-!
# The messages of a frame

Nothing that a program does makes a frame or a step fail: a fault of the machine ends up as a
message and in the device.  The messages of a frame are about the words that were passed over, and a
last one may say how the frame ended, with a fault or with a wait.

`Machine.executed` lists the words that a machine executes, from the machine's steps alone.  The
instructions of a frame report the unknown ones among them and then, if they ended in a fault, that
fault (`Device.messages_cycles`); what comes behind is the news of a wait.  `Device.FrameReport`
collects what a host can read off the messages of a frame, and `Device.tick_reports` says that every
frame gives such a report.
-/

namespace Chip8

/-- Whether a word is none of the instructions. -/
def Word.isUnknown (word : Word) : Bool :=
  (Instruction.decode word.val).isUnknown

namespace Machine

variable {rules : Rules} {machine next : Machine}

theorem instruction_of_step {instruction : Instruction} {trace : Array Log.Entry}
    (h : machine.step rules = ⟨⟨next, .ok instruction⟩, trace⟩) :
    instruction = machine.nextInstruction :=
  (execute_of_result_step (by rw [h])).1

theorem eq_nextWord_of_nextInstruction {word : Word}
    (h : machine.nextInstruction = .unknown word) : word = machine.nextWord := by
  have hencode : machine.nextInstruction.encode = machine.nextWord.val :=
    Instruction.encode_decode_word machine.nextWord
  rw [h] at hencode
  exact Fin.ext hencode

end Machine

namespace Device

variable {device : Device}

/-- The words that a frame of the device executes: those of as many steps as the configuration says,
which begin when the timers have passed. -/
def executedInFrame (device : Device) : List Word :=
  if device.running then
    device.machine.tickTimers.executed device.rules device.config.cyclesPerFrame
  else []

/-! ## The messages of instructions -/

/-- An instruction that ran is reported if it was passed over. -/
theorem messages_nextInstruction (machine : Machine) :
    machine.nextInstruction.messages.toList =
      ([machine.nextWord].filter Word.isUnknown).map Message.unknownOpcode := by
  have hunknown : machine.nextWord.isUnknown = machine.nextInstruction.isUnknown := rfl
  cases hi : machine.nextInstruction with
  | unknown word =>
    rw [hi] at hunknown
    rw [Machine.eq_nextWord_of_nextInstruction hi, List.filter_cons_of_pos hunknown]
    rfl
  | _ =>
    rw [hi] at hunknown
    rw [List.filter_cons_of_neg (by rw [hunknown]; exact Bool.false_ne_true)]
    rfl

/-- The news that the device was halted. -/
def haltMessages (device : Device) : List Message :=
  if device.running then [] else (device.fault.map Message.fault).toList

/-- The instructions of a frame report the words that were passed over, and the fault that halted
the device if there was one. -/
theorem messages_cycles {ran : Ran} (hrunning : ran.device.running = true) (count : Nat) :
    (cycles count ran).messages.toList =
      ran.messages.toList ++
        ((ran.device.machine.executed ran.device.rules count).filter Word.isUnknown).map
          Message.unknownOpcode ++
        (cycles count ran).device.haltMessages := by
  induction count generalizing ran with
  | zero => simp [cycles, haltMessages, hrunning]
  | succ count ih =>
    rcases cycles_succ_cases hrunning count with
      ⟨hwait, hcycles⟩ | ⟨next, fault, trace, -, hstep, hcycles, hanother⟩ |
      ⟨next, instruction, trace, hwait, hstep, hcycles, hanother⟩
    · rw [hcycles, Machine.executed_of_awaitingKey hwait]
      simp [haltMessages, hrunning]
    · have hmessages : ran.another.messages.toList = ran.messages.toList ++ [.fault fault] := by
        rw [Ran.another, cycle_of_error hstep, Array.toList_append]
      rw [hcycles, Machine.executed_of_error hstep, hmessages, hanother]
      simp [haltMessages]
    · have hmessages : ran.another.messages.toList = ran.messages.toList ++
          ([ran.device.machine.nextWord].filter Word.isUnknown).map Message.unknownOpcode := by
        rw [Ran.another, cycle_of_ok hstep, Array.toList_append, Machine.instruction_of_step hstep,
          messages_nextInstruction]
      have hwords : ran.device.machine.executed ran.device.rules (count + 1) =
          [ran.device.machine.nextWord] ++
            ran.another.device.machine.executed ran.another.device.rules count := by
        rw [Machine.executed_succ_of_ok hwait hstep, hanother]
        rfl
      rw [hcycles, ih (by rw [hanother]; exact hrunning), hmessages, hwords, List.filter_append,
        List.map_append]
      simp only [List.append_assoc]

/-! ## How many messages there are -/

/-- A cycle has a message or begins a wait, and not both. -/
theorem size_messages_cycle (hoperation : device.InOperation) :
    device.cycle.messages.size + device.cycle.device.waitMessages.size ≤ 1 := by
  rcases Machine.step_cases device.rules device.machine with
    ⟨cause, -, hstep⟩ | ⟨cause, -, -, hstep⟩ | ⟨next, -, hexec, hstep⟩
  · rw [cycle_of_error hstep]
    simp [waitMessages]
  · rw [cycle_of_error hstep]
    simp [waitMessages]
  · rw [cycle_of_ok hstep]
    cases hi : device.machine.nextInstruction with
    | unknown word =>
      have hkept : next.cpu.awaitingKey = device.awaitingKey :=
        (Machine.execute_footprint hexec).awaitingKey_of_other fun x hx => by simp [hi] at hx
      have hwait : next.cpu.awaitingKey = false := hkept.trans hoperation.2
      simp [waitMessages, awaitingKey, hwait, Instruction.messages]
    | _ =>
      simp only [Instruction.messages, waitMessages]
      split <;> simp

/-- The instructions of a frame and the news of a wait together are no more messages than
instructions could run. -/
theorem size_messages_cycles {ran : Ran} (hoperation : ran.device.InOperation) (count : Nat) :
    (cycles count ran).messages.size + (cycles count ran).device.waitMessages.size ≤
      ran.messages.size + count := by
  induction count generalizing ran with
  | zero =>
    have hnone : ran.device.waitMessages = #[] := by
      simp [waitMessages, hoperation.2]
    rw [cycles, hnone]
    exact Nat.le_refl _
  | succ count ih =>
    have hcycle := size_messages_cycle hoperation
    have hanother : ran.another.messages.size =
        ran.messages.size + ran.device.cycle.messages.size := Array.size_append
    rw [cycles_succ_of_inOperation hoperation]
    by_cases hnext : ran.another.device.InOperation
    · have hrest := ih hnext
      omega
    · rw [cycles_of_not_inOperation hnext]
      have hdevice : ran.another.device = ran.device.cycle.device := rfl
      rw [hdevice]
      omega

theorem size_messages_frame (started : Device) (count : Nat) :
    (cycles count ⟨started, #[], #[]⟩).messages.size +
      (cycles count ⟨started, #[], #[]⟩).device.waitMessages.size ≤ max 1 count := by
  by_cases hoperation : started.InOperation
  · have hsize := @size_messages_cycles ⟨started, #[], #[]⟩ hoperation count
    simp only [Array.size_empty, Nat.zero_add] at hsize
    exact Nat.le_trans hsize (Nat.le_max_right 1 count)
  · rw [cycles_of_not_inOperation hoperation]
    have hnews : started.waitMessages.size ≤ 1 := by
      unfold waitMessages
      split <;> simp
    simp only [Array.size_empty, Nat.zero_add]
    exact Nat.le_trans hnews (Nat.le_max_left 1 count)

/-! ## How a frame ends -/

/-- The message that a frame ends with on a device that ran before it: the fault that halted the
device, or the register that it waits to fill. -/
def closingMessage (device : Device) : Option Message :=
  if device.running then
    if device.awaitingKey then some (.waitingForKey device.machine.cpu.keyRegister) else none
  else device.fault.map Message.fault

theorem haltMessages_append_waitMessages (device : Device) :
    device.haltMessages ++ device.waitMessages.toList = device.closingMessage.toList := by
  unfold haltMessages waitMessages closingMessage
  cases device.running with
  | false => simp
  | true =>
    cases device.awaitingKey with
    | false => rfl
    | true => rfl

theorem closingMessage_eq_waitingForKey_iff {register : Register} :
    device.closingMessage = some (.waitingForKey register) ↔
      device.runState = .waiting ∧ device.machine.cpu.keyRegister = register := by
  unfold closingMessage runState
  cases device.running with
  | false => simp
  | true => cases device.awaitingKey <;> simp

theorem closingMessage_eq_fault_iff {fault : Fault} :
    device.closingMessage = some (.fault fault) ↔
      device.running = false ∧ device.fault = some fault := by
  unfold closingMessage
  cases device.running with
  | false => simp
  | true => cases device.awaitingKey <;> simp

/-- Instructions stop a device only by a fault. -/
theorem fault_isSome_of_halted {ran : Ran} (hrunning : ran.device.running = true) (count : Nat)
    (hhalted : (cycles count ran).device.running = false) :
    (cycles count ran).device.fault.isSome = true := by
  have hstate : (cycles count ran).device.running = true ∨
      (cycles count ran).device.fault.isSome = true := by
    refine cycles_induction
      (motive := fun ran => ran.device.running = true ∨ ran.device.fault.isSome = true)
      (fun ran _ hoperation => ?_) count (Or.inl hrunning)
    rcases cycle_cases ran.device with ⟨fault, trace, -, hcycle⟩ | ⟨instruction, trace, hcycle⟩
    · right
      simp only [Ran.another, hcycle, Option.isSome_some]
    · left
      simp only [Ran.another, hcycle, hoperation.1]
  rcases hstate with hruns | hfault
  · rw [hhalted] at hruns
    cases hruns
  · exact hfault

/-! ## What a host is told of a frame -/

/-- What the messages of a frame say, of which the last one may be about its end. -/
structure FrameReport (device : Device) (ran : Ran) (last : Option Message) : Prop where
  messages : ran.messages.toList =
    (device.executedInFrame.filter Word.isUnknown).map Message.unknownOpcode ++ last.toList
  size : ran.messages.size ≤ max 1 device.config.cyclesPerFrame
  kind : ∀ message ∈ last,
    (∃ fault, message = .fault fault) ∨ ∃ register, message = .waitingForKey register
  halted : (∃ fault, last = some (.fault fault)) ↔
    device.running = true ∧ ran.device.running = false
  fault : ∀ fault, last = some (.fault fault) → ran.device.fault = some fault
  waiting : (∃ register, last = some (.waitingForKey register)) ↔
    device.running = true ∧ ran.device.runState = .waiting
  register : ∀ register, last = some (.waitingForKey register) →
    ran.device.machine.cpu.keyRegister = register

theorem frameReport_of_not_running (h : device.running = false) (delta : Float) :
    FrameReport device (device.tick delta) none := by
  rw [tick_of_not_running h]
  exact {
    messages := by simp [executedInFrame, h]
    size := Nat.zero_le _
    kind := by simp
    halted := by simp [h]
    fault := by simp
    waiting := by simp [h]
    register := by simp }

theorem frameReport_of_running (h : device.running = true) (delta : Float) :
    FrameReport device (device.tick delta) (device.tick delta).device.closingMessage := by
  rw [tick_of_running h]
  dsimp only
  generalize hstarted :
    device.passTimers.withClock (device.frames + 1) (device.elapsed + delta) = started
  have hrunning : started.running = true := by rw [← hstarted]; exact h
  have hwords : device.executedInFrame =
      started.machine.executed started.rules device.config.cyclesPerFrame := by
    rw [executedInFrame, if_pos h, ← hstarted]
    rfl
  have hmessages := @messages_cycles ⟨started, #[], #[]⟩ hrunning device.config.cyclesPerFrame
  have hfault := @fault_isSome_of_halted ⟨started, #[], #[]⟩ hrunning device.config.cyclesPerFrame
  have hsize := size_messages_frame started device.config.cyclesPerFrame
  generalize cycles device.config.cyclesPerFrame ⟨started, #[], #[]⟩ = ran at *
  refine {
    messages := ?messages
    size := ?size
    kind := ?kind
    halted := ?halted
    fault := ?fault
    waiting := ?waiting
    register := ?register }
  case messages =>
    rw [hwords, ← haltMessages_append_waitMessages, Array.toList_append, hmessages]
    simp only [List.nil_append, List.append_assoc]
  case size =>
    rw [Array.size_append]
    exact hsize
  case kind =>
    intro message hmessage
    unfold closingMessage at hmessage
    split at hmessage
    · split at hmessage
      · cases hmessage
        exact Or.inr ⟨_, rfl⟩
      · cases hmessage
    · obtain ⟨fault, -, rfl⟩ := Option.map_eq_some_iff.1 hmessage
      exact Or.inl ⟨fault, rfl⟩
  case halted =>
    simp only [closingMessage_eq_fault_iff, h, true_and]
    constructor
    · rintro ⟨fault, hhalted, -⟩
      exact hhalted
    · intro hhalted
      obtain ⟨fault, hsome⟩ := Option.isSome_iff_exists.1 (hfault hhalted)
      exact ⟨fault, hhalted, hsome⟩
  case fault =>
    intro fault hclosing
    exact (closingMessage_eq_fault_iff.1 hclosing).2
  case waiting =>
    simp only [closingMessage_eq_waitingForKey_iff, h, true_and]
    constructor
    · rintro ⟨register, hwaiting, -⟩
      exact hwaiting
    · intro hwaiting
      exact ⟨_, hwaiting, rfl⟩
  case register =>
    intro register hclosing
    exact (closingMessage_eq_waitingForKey_iff.1 hclosing).2

/-- No program makes a frame or a step fail.  A frame is reported by the words that were passed over
and by the way it ended; a device that it halts had no fault before. -/
theorem tick_reports (device : Device) (delta : Float) :
    (device.serve (.tick (.ok delta))).outcome = .ok (device.tick delta).messages ∧
      (device.serve .step).outcome = .ok device.step.messages ∧
      ∃ last, FrameReport device (device.tick delta) last ∧
        ∀ fault, last = some (.fault fault) → device.Reachable → device.fault = none := by
  refine ⟨rfl, rfl, ?_⟩
  cases hrunning : device.running with
  | false =>
    refine ⟨none, frameReport_of_not_running hrunning delta, fun fault hlast => ?_⟩
    cases hlast
  | true =>
    refine ⟨_, frameReport_of_running hrunning delta, fun fault _ hreachable => ?_⟩
    exact hreachable.sound.fault_eq_none hrunning

/-- A program that begins with a word that is no instruction and then jumps to the last byte of
memory, where no word can be fetched. -/
theorem tick_reports_unknown_and_fault :
    ∃ created, Device.create .standard 0 = .ok created ∧
      let device := created.after [.loadRom [0x00, 0x01, 0x1F, 0xFF], .start]
      device.Reachable ∧ device.fault = none ∧
        ∃ fault, (device.tick 0).device.fault = some fault ∧
          (device.tick 0).messages.toList = [.unknownOpcode 1, .fault fault] := by
  refine ⟨_, rfl, ?_⟩
  intro device
  have hreachable : device.Reachable := (@Reachable.created .standard 0 _ rfl).after _
  have hrunning : device.running = true := by decide +kernel
  have hhalted : (device.tick 0).device.running = false := by decide +kernel
  have hwords : device.executedInFrame.filter Word.isUnknown = [1] := by decide +kernel
  obtain ⟨-, -, last, hreport, hnone⟩ := tick_reports device 0
  obtain ⟨fault, hlast⟩ := hreport.halted.2 ⟨hrunning, hhalted⟩
  refine ⟨hreachable, hnone fault hlast hreachable, fault, hreport.fault fault hlast, ?_⟩
  rw [hreport.messages, hwords, hlast]
  rfl

end Device
end Chip8
