import Mathlib.Data.List.Basic
import Chip8.Proofs.Device.Messages

/-!
# What instructions put on record

A host learns of a frame from two sides: from its messages, and from what the machine and the device
put on record meanwhile.  `Machine.fetching` lists the machines that fetched a word, from the steps
of the machine alone, and everything else is read off this list.  The log of a frame is what each of
them put on record, and behind it the fault that halted the device if there was one
(`Device.log_cycles`); and the words that the messages report are the unknown ones among those that
were fetched (`Machine.filter_isUnknown_executed`).

`Device.Recorded` collects how the log, the messages and the list fit together, and
`Device.tick_and_step_recorded` says that they do in every frame and every step.
-/

namespace Chip8
namespace Log

namespace Entry

/-- Whether the entry comes from a part of the system and has a level. -/
def isOf (source : Source) (level : Level) (entry : Entry) : Bool :=
  entry.source = source ∧ entry.level = level

/-- Whether the entry says that a word was passed over. -/
def isSkip : Entry → Bool
  | unknownSkipped _ _ => true
  | _ => false

end Entry
end Log

/-- Whether a host is told of a word that was passed over. -/
def Message.reportsUnknown : Message → Bool
  | unknownOpcode _ => true
  | _ => false

namespace Machine

/-! ## What is fetched -/

/-- Whether the word at the program counter is none of the instructions. -/
def atUnknown (machine : Machine) : Bool :=
  machine.nextWord.isUnknown

/-- The line for the log about a fetch: the address, the word and the name of the instruction. -/
def fetchLine (machine : Machine) : String :=
  "$" ++ Hex.padded 3 machine.cpu.pc ++ ": " ++ Hex.padded 4 machine.nextWord.val ++ " " ++
    machine.nextInstruction.mnemonic

section

variable {rules : Rules} {machine next : Machine} {count : Nat}

/-- A word that is no instruction is passed over, and nothing else. -/
theorem atUnknown_of_execute_eq_error {cause : FaultCause}
    (h : machine.advance.execute rules machine.nextInstruction = .error cause) :
    machine.atUnknown = false := by
  change machine.nextInstruction.isUnknown = false
  cases hi : machine.nextInstruction with
  | unknown word =>
    rw [hi] at h
    cases h
  | _ => rfl

/-- A step at fault fetched nothing, or its word was refused.  Only a word that was fetched is put
on record. -/
theorem fetching_of_error {fault : Fault} {trace : Array Log.Entry}
    (hwait : machine.cpu.awaitingKey = false)
    (h : machine.step rules = ⟨⟨next, .error fault⟩, trace⟩) (count : Nat) :
    fault.pc = some machine.cpu.pc ∧
      ((¬machine.CanFetch ∧ next = machine ∧ trace = #[] ∧
          machine.fetching rules (count + 1) = []) ∨
        (machine.CanFetch ∧ machine.atUnknown = false ∧ next = machine.advance ∧
          trace = machine.stepTrace ∧ machine.fetching rules (count + 1) = [machine])) := by
  have hfetching := fetching_succ_of_error hwait h count
  rcases step_cases rules machine with
    ⟨cause, hfetch, hstep⟩ | ⟨cause, hcan, hexec, hstep⟩ | ⟨other, -, -, hstep⟩
  · rw [hstep] at h
    cases h
    have hcannot : ¬machine.CanFetch := fun hcan => by
      rw [fetch_eq_ok hcan] at hfetch
      cases hfetch
    rw [if_neg hcannot] at hfetching
    exact ⟨rfl, Or.inl ⟨hcannot, rfl, rfl, hfetching⟩⟩
  · rw [hstep] at h
    cases h
    rw [if_pos hcan] at hfetching
    exact ⟨rfl, Or.inr ⟨hcan, atUnknown_of_execute_eq_error hexec, rfl, rfl, hfetching⟩⟩
  · rw [hstep] at h
    cases h

theorem fetching_of_ok {instruction : Instruction} {trace : Array Log.Entry}
    (hwait : machine.cpu.awaitingKey = false)
    (h : machine.step rules = ⟨⟨next, .ok instruction⟩, trace⟩) (count : Nat) :
    trace = machine.stepTrace ∧
      machine.fetching rules (count + 1) = machine :: next.fetching rules count := by
  rcases step_cases rules machine with
    ⟨cause, -, hstep⟩ | ⟨cause, -, -, hstep⟩ | ⟨other, hcan, -, hstep⟩
  · rw [hstep] at h
    cases h
  · rw [hstep] at h
    cases h
  · have hfetching := fetching_succ_of_ok hwait hcan h count
    rw [hstep] at h
    cases h
    exact ⟨rfl, hfetching⟩

/-- Of a word that is no instruction it is all the same whether it is fetched or carried out. -/
theorem succeeds_and_atUnknown (rules : Rules) (machine : Machine) :
    (machine.succeeds rules && machine.atUnknown) =
      (decide machine.CanFetch && machine.atUnknown) := by
  rcases step_cases rules machine with
    ⟨cause, hfetch, hstep⟩ | ⟨cause, -, hexec, -⟩ | ⟨next, hcan, -, hstep⟩
  · have hcannot : ¬machine.CanFetch := fun hcan => by
      rw [fetch_eq_ok hcan] at hfetch
      cases hfetch
    rw [succeeds, hstep, decide_eq_false hcannot]
    rfl
  · rw [atUnknown_of_execute_eq_error hexec, Bool.and_false, Bool.and_false]
  · rw [succeeds, hstep, decide_eq_true hcan]
    rfl

end

variable (rules : Rules)

/-- The unknown words that are executed are those that are fetched. -/
theorem filter_isUnknown_executed (count : Nat) (machine : Machine) :
    (machine.executed rules count).filter Word.isUnknown =
      ((machine.fetching rules count).filter atUnknown).map nextWord := by
  rw [executed, trail, fetching, List.filter_map, List.filter_filter, List.filter_filter]
  refine congrArg _ (List.filter_congr fun tried _ => ?_)
  rw [Bool.and_comm, Bool.and_comm (tried.atUnknown)]
  exact succeeds_and_atUnknown rules tried

/-! ## What is put on record -/

/-- A fetch is put on record, and then what was passed over. -/
theorem stepTrace_cases (machine : Machine) :
    (machine.atUnknown = true ∧ machine.stepTrace =
      #[.fetched machine.cpu.pc machine.nextInstruction,
        .unknownSkipped machine.nextWord machine.cpu.pc]) ∨
    (machine.atUnknown = false ∧
      (machine.stepTrace = #[.fetched machine.cpu.pc machine.nextInstruction] ∨
        machine.stepTrace = #[.fetched machine.cpu.pc machine.nextInstruction,
          .returnIgnored machine.cpu.pc])) := by
  have hunknown : machine.atUnknown = machine.nextInstruction.isUnknown := rfl
  have hpc : machine.advance.cpu.pc - 2 = machine.cpu.pc := Int.add_sub_cancel _ _
  cases hi : machine.nextInstruction with
  | unknown word =>
    have hword : word = machine.nextWord := eq_nextWord_of_nextInstruction hi
    left
    rw [hunknown, stepTrace, hi, remarks, hpc, hword]
    exact ⟨rfl, rfl⟩
  | ret =>
    right
    rw [hunknown, stepTrace, hi, remarks, hpc]
    refine ⟨rfl, ?_⟩
    split
    · exact Or.inr rfl
    · exact Or.inl rfl
  | _ =>
    right
    rw [hunknown, stepTrace, hi]
    exact ⟨rfl, Or.inl rfl⟩

theorem filter_isOf_cpu_debug_stepTrace (machine : Machine) :
    machine.stepTrace.toList.filter (Log.Entry.isOf .cpu .debug) =
      [.fetched machine.cpu.pc machine.nextInstruction] := by
  rcases machine.stepTrace_cases with ⟨-, h⟩ | ⟨-, h | h⟩ <;> rw [h] <;> rfl

theorem filter_isOf_device_stepTrace (level : Log.Level) (machine : Machine) :
    machine.stepTrace.toList.filter (Log.Entry.isOf .device level) = [] := by
  rcases machine.stepTrace_cases with ⟨-, h⟩ | ⟨-, h | h⟩ <;> rw [h] <;> rfl

theorem filter_isSkip_stepTrace (machine : Machine) :
    machine.stepTrace.toList.filter Log.Entry.isSkip =
      ([machine].filter atUnknown).map fun m => .unknownSkipped m.nextWord m.cpu.pc := by
  rcases machine.stepTrace_cases with ⟨hunknown, h⟩ | ⟨hknown, h | h⟩
  · rw [h, List.filter_cons_of_pos hunknown]
    rfl
  all_goals
    have hnone : [machine].filter atUnknown = [] :=
      List.filter_cons_of_neg (by rw [hknown]; exact Bool.false_ne_true)
    rw [h, hnone]
    rfl

end Machine

namespace Device

variable {device : Device}

/-- The machines that fetch a word in a frame, whose instructions begin when the timers have
passed. -/
def fetchingInFrame (device : Device) : List Machine :=
  if device.running then
    device.machine.tickTimers.fetching device.rules device.config.cyclesPerFrame
  else []

/-- The machine that fetches a word in a step, if there is one. -/
def fetchingInStep (device : Device) : List Machine :=
  if device.running then device.machine.fetching device.rules 1 else []

/-- The fault that halted the device, as it is put on record. -/
def haltEntries (device : Device) : List Log.Entry :=
  if device.running then [] else (device.fault.map Log.Entry.faulted).toList

/-! ## The log of instructions -/

/-- Instructions put on record what was fetched, with what there was to say of it, and the fault
that halted the device if there was one. -/
theorem log_cycles {ran : Ran} (hrunning : ran.device.running = true) (count : Nat) :
    (cycles count ran).log.toList =
      ran.log.toList ++
        (ran.device.machine.fetching ran.device.rules count).flatMap
          (fun machine => machine.stepTrace.toList) ++
        (cycles count ran).device.haltEntries := by
  induction count generalizing ran with
  | zero => simp [cycles, haltEntries, hrunning]
  | succ count ih =>
    rcases cycles_succ_cases hrunning count with
      ⟨hwait, hcycles⟩ | ⟨next, fault, trace, hwait, hstep, hcycles, hanother⟩ |
      ⟨next, instruction, trace, hwait, hstep, hcycles, hanother⟩
    · rw [hcycles, Machine.fetching_of_awaitingKey hwait]
      simp [haltEntries, hrunning]
    · have hlog : ran.another.log.toList =
          ran.log.toList ++ (trace.toList ++ [.faulted fault]) := by
        rw [Ran.another, cycle_of_error hstep, Array.toList_append, Array.toList_push]
      have htrace : trace.toList =
          (ran.device.machine.fetching ran.device.rules (count + 1)).flatMap
            (fun machine => machine.stepTrace.toList) := by
        rcases (Machine.fetching_of_error hwait hstep count).2 with
          ⟨-, -, htrace, hnone⟩ | ⟨-, -, -, htrace, hone⟩
        · rw [htrace, hnone]
          rfl
        · rw [htrace, hone, List.flatMap_singleton]
      rw [hcycles, hlog, hanother, htrace, List.append_assoc]
      rfl
    · obtain ⟨htrace, hcons⟩ := Machine.fetching_of_ok hwait hstep count
      have hlog : ran.another.log.toList =
          ran.log.toList ++ ran.device.machine.stepTrace.toList := by
        rw [Ran.another, cycle_of_ok hstep, Array.toList_append, htrace]
      rw [hcycles, ih (by rw [hanother]; exact hrunning), hlog, hanother, hcons, List.flatMap_cons]
      simp only [List.append_assoc]
      rfl

theorem mem_haltEntries_iff {entry : Log.Entry} :
    entry ∈ device.haltEntries ↔
      ∃ fault, entry = .faulted fault ∧ device.running = false ∧ device.fault = some fault := by
  unfold haltEntries
  cases device.running with
  | true => simp
  | false => cases device.fault <;> simp

theorem filter_haltEntries_of_not {picks : Log.Entry → Bool}
    (h : ∀ fault, picks (.faulted fault) = false) : device.haltEntries.filter picks = [] := by
  refine List.filter_eq_nil_iff.2 fun entry hmem => ?_
  obtain ⟨fault, rfl, -⟩ := mem_haltEntries_iff.1 hmem
  rw [h fault]
  exact Bool.false_ne_true

theorem filter_haltEntries_of {picks : Log.Entry → Bool}
    (h : ∀ fault, picks (.faulted fault) = true) :
    device.haltEntries.filter picks = device.haltEntries := by
  refine List.filter_eq_self.2 fun entry hmem => ?_
  obtain ⟨fault, rfl, -⟩ := mem_haltEntries_iff.1 hmem
  exact h fault

theorem fault_mem_haltMessages_iff {fault : Fault} :
    .fault fault ∈ device.haltMessages ↔ device.running = false ∧ device.fault = some fault := by
  unfold haltMessages
  cases device.running with
  | true => simp
  | false => cases device.fault <;> simp [eq_comm]

section

variable {started : Device} (hrunning : started.running = true) (count : Nat)
include hrunning

/-- What is picked from the log of instructions is picked from what each fetch put on record, and
from the fault. -/
theorem filter_log_cycles (picks : Log.Entry → Bool) :
    (cycles count ⟨started, #[], #[]⟩).log.toList.filter picks =
      (started.machine.fetching started.rules count).flatMap
        (fun machine => machine.stepTrace.toList.filter picks) ++
      (cycles count ⟨started, #[], #[]⟩).device.haltEntries.filter picks := by
  have hlog := @log_cycles ⟨started, #[], #[]⟩ hrunning count
  rw [hlog, List.filter_append, List.filter_append, List.filter_flatMap]
  rfl

theorem filter_isOf_cpu_debug_cycles :
    (cycles count ⟨started, #[], #[]⟩).log.toList.filter (Log.Entry.isOf .cpu .debug) =
      (started.machine.fetching started.rules count).map fun machine =>
        .fetched machine.cpu.pc machine.nextInstruction := by
  rw [filter_log_cycles hrunning, filter_haltEntries_of_not fun _ => rfl, List.append_nil,
    List.map_eq_flatMap]
  exact List.flatMap_congr fun machine _ => machine.filter_isOf_cpu_debug_stepTrace

theorem filter_isSkip_cycles :
    (cycles count ⟨started, #[], #[]⟩).log.toList.filter Log.Entry.isSkip =
      ((started.machine.fetching started.rules count).filter Machine.atUnknown).map fun machine =>
        .unknownSkipped machine.nextWord machine.cpu.pc := by
  have hone := fun machine (_ : machine ∈ started.machine.fetching started.rules count) =>
    machine.filter_isSkip_stepTrace
  rw [filter_log_cycles hrunning, filter_haltEntries_of_not fun _ => rfl, List.append_nil,
    List.flatMap_congr hone, ← List.map_flatMap, ← List.filter_flatMap, List.flatMap_singleton']

theorem filter_isOf_device_error_cycles :
    (cycles count ⟨started, #[], #[]⟩).log.toList.filter (Log.Entry.isOf .device .error) =
      (cycles count ⟨started, #[], #[]⟩).device.haltEntries := by
  have hnone : (started.machine.fetching started.rules count).flatMap
      (fun machine => machine.stepTrace.toList.filter (Log.Entry.isOf .device .error)) = [] :=
    List.flatMap_eq_nil_iff.2 fun machine _ => machine.filter_isOf_device_stepTrace .error
  rw [filter_log_cycles hrunning, filter_haltEntries_of fun _ => rfl, hnone, List.nil_append]

/-! ## The messages of instructions -/

theorem filter_reportsUnknown_cycles :
    (cycles count ⟨started, #[], #[]⟩).messages.toList.filter Message.reportsUnknown =
      ((started.machine.fetching started.rules count).filter Machine.atUnknown).map fun machine =>
        .unknownOpcode machine.nextWord := by
  have hmessages := @messages_cycles ⟨started, #[], #[]⟩ hrunning count
  rw [Machine.filter_isUnknown_executed] at hmessages
  generalize cycles count ⟨started, #[], #[]⟩ = ran at hmessages ⊢
  have hwords : ∀ words : List Word,
      (words.map Message.unknownOpcode).filter Message.reportsUnknown =
        words.map Message.unknownOpcode := fun words =>
    List.filter_eq_self.2 fun message hmem => by
      obtain ⟨word, -, rfl⟩ := List.mem_map.1 hmem
      rfl
  have hhalts : ran.device.haltMessages.filter Message.reportsUnknown = [] := by
    unfold haltMessages
    cases ran.device.running with
    | true => rfl
    | false => cases ran.device.fault <;> rfl
  rw [hmessages, List.filter_append, hhalts, List.append_nil, List.nil_append, hwords, List.map_map]
  rfl

/-- A host is told of a fault just if it halted the device. -/
theorem fault_mem_messages_cycles_iff {fault : Fault} :
    .fault fault ∈ (cycles count ⟨started, #[], #[]⟩).messages ↔
      (cycles count ⟨started, #[], #[]⟩).device.running = false ∧
        (cycles count ⟨started, #[], #[]⟩).device.fault = some fault := by
  have hmessages := @messages_cycles ⟨started, #[], #[]⟩ hrunning count
  rw [← Array.mem_toList_iff, hmessages, List.mem_append, ← fault_mem_haltMessages_iff]
  simp

end

/-! ## Where a device is halted -/

/-- A fault that halts the device names the address that was fetched from.  Nothing was fetched
there, and the machine is where it was; or the word was fetched last, and the machine stands behind
it. -/
def HaltedAt (fetching : List Machine) (fault : Fault) (machine : Machine) : Prop :=
  (¬machine.CanFetch ∧ fault.pc = some machine.cpu.pc) ∨
    ∃ last, fetching.getLast? = some last ∧ fault.pc = some last.cpu.pc ∧ machine = last.advance

theorem haltedAt_cycles {ran : Ran} (hrunning : ran.device.running = true) (count : Nat)
    (hhalted : (cycles count ran).device.running = false) :
    ∀ fault, (cycles count ran).device.fault = some fault →
      HaltedAt (ran.device.machine.fetching ran.device.rules count) fault
        (cycles count ran).device.machine := by
  intro fault hfault
  induction count generalizing ran with
  | zero =>
    rw [cycles, hrunning] at hhalted
    cases hhalted
  | succ count ih =>
    rcases cycles_succ_cases hrunning count with
      ⟨-, hcycles⟩ | ⟨next, cause, trace, hwait, hstep, hcycles, hanother⟩ |
      ⟨next, instruction, trace, hwait, hstep, hcycles, hanother⟩
    · rw [hcycles, hrunning] at hhalted
      cases hhalted
    · rw [hcycles, hanother] at hfault ⊢
      cases hfault
      obtain ⟨hpc, hends⟩ := Machine.fetching_of_error hwait hstep count
      rcases hends with ⟨hcannot, rfl, -, -⟩ | ⟨-, -, rfl, -, hone⟩
      · exact Or.inl ⟨hcannot, hpc⟩
      · rw [hone]
        exact Or.inr ⟨_, rfl, hpc, rfl⟩
    · rw [hcycles] at hhalted hfault ⊢
      have hrest := ih (by rw [hanother]; exact hrunning) hhalted hfault
      rw [(Machine.fetching_of_ok hwait hstep count).2]
      rw [hanother] at hrest
      refine hrest.imp_right ?_
      rintro ⟨last, hlast, hends⟩
      have hlast' : (next.fetching ran.device.rules count).getLast? = some last := hlast
      refine ⟨last, ?_, hends⟩
      rw [List.getLast?_cons, hlast']
      rfl

/-! ## The log and the messages -/

/-- How the log and the messages of a run fit together with the machines that fetched its words. -/
structure Recorded (fetching : List Machine) (limit : Nat) (ran : Ran) : Prop where
  fetches : ∀ machine ∈ fetching, machine.CanFetch
  limit : fetching.length ≤ limit
  traced : ran.log.toList.filter (Log.Entry.isOf .cpu .debug) =
    fetching.map fun machine => .fetched machine.cpu.pc machine.nextInstruction
  lines : (ran.log.toList.filter (Log.Entry.isOf .cpu .debug)).map Log.Entry.text =
    fetching.map Machine.fetchLine
  skipped : ran.log.toList.filter Log.Entry.isSkip =
    (fetching.filter Machine.atUnknown).map fun machine =>
      .unknownSkipped machine.nextWord machine.cpu.pc
  reported : ran.messages.toList.filter Message.reportsUnknown =
    (fetching.filter Machine.atUnknown).map fun machine => .unknownOpcode machine.nextWord
  halted : ∀ fault, .fault fault ∈ ran.messages →
    ran.device.fault = some fault ∧
      ran.log.toList.filter (Log.Entry.isOf .device .error) = [.faulted fault] ∧
      (Log.Entry.faulted fault).text = "Machine fault, stopping: " ++ fault.message ∧
      HaltedAt fetching fault ran.device.machine
  unhalted : (∀ fault, .fault fault ∉ ran.messages) →
    ran.log.toList.filter (Log.Entry.isOf .device .error) = []

theorem text_fetched (machine : Machine) :
    (Log.Entry.fetched machine.cpu.pc machine.nextInstruction).text = machine.fetchLine := by
  have hencode : machine.nextInstruction.encode = machine.nextWord.val :=
    Instruction.encode_decode_word machine.nextWord
  rw [Machine.fetchLine, ← hencode]
  rfl

/-- Instructions that begin on a device that runs are recorded, whatever else a host is told that is
neither of a word nor of a fault. -/
theorem recorded_cycles {started : Device} (hrunning : started.running = true) (count : Nat)
    {news : Array Message}
    (hnews : ∀ message ∈ news, ∃ register, message = .waitingForKey register) :
    let ran := cycles count ⟨started, #[], #[]⟩
    Recorded (started.machine.fetching started.rules count) count
      ⟨ran.device, ran.messages ++ news, ran.log⟩ := by
  intro ran
  have htraced := filter_isOf_cpu_debug_cycles hrunning count
  have hfault : ∀ fault, .fault fault ∈ ran.messages ++ news ↔
      ran.device.running = false ∧ ran.device.fault = some fault := by
    intro fault
    have hother : .fault fault ∉ news := fun hmem => by
      obtain ⟨register, hmessage⟩ := hnews _ hmem
      cases hmessage
    rw [Array.mem_append, or_iff_left hother]
    exact fault_mem_messages_cycles_iff hrunning count
  refine {
    fetches := fun machine => Machine.canFetch_of_mem_fetching
    limit := Machine.length_fetching_le _ count _
    traced := htraced
    lines := ?lines
    skipped := filter_isSkip_cycles hrunning count
    reported := ?reported
    halted := ?halted
    unhalted := ?unhalted }
  case lines =>
    rw [htraced, List.map_map]
    exact List.map_congr_left fun machine _ => text_fetched machine
  case reported =>
    have hothers : news.toList.filter Message.reportsUnknown = [] :=
      List.filter_eq_nil_iff.2 fun message hmem => by
        obtain ⟨register, rfl⟩ := hnews message (Array.mem_toList_iff.1 hmem)
        exact Bool.false_ne_true
    rw [Array.toList_append, List.filter_append, hothers, List.append_nil]
    exact filter_reportsUnknown_cycles hrunning count
  case halted =>
    intro fault hmem
    obtain ⟨hhalted, hcause⟩ := (hfault fault).1 hmem
    refine ⟨hcause, ?_, rfl, haltedAt_cycles hrunning count hhalted fault hcause⟩
    rw [filter_isOf_device_error_cycles hrunning, haltEntries, hhalted, hcause]
    rfl
  case unhalted =>
    intro hnone
    rw [filter_isOf_device_error_cycles hrunning]
    refine List.eq_nil_iff_forall_not_mem.2 fun entry hmem => ?_
    obtain ⟨fault, -, hhalted⟩ := mem_haltEntries_iff.1 hmem
    exact hnone fault ((hfault fault).2 hhalted)

theorem recorded_nothing (device : Device) (limit : Nat) :
    Recorded [] limit ⟨device, #[], #[]⟩ where
  fetches := by simp
  limit := Nat.zero_le limit
  traced := rfl
  lines := rfl
  skipped := rfl
  reported := rfl
  halted := by simp
  unhalted _ := rfl

theorem waitingForKey_of_mem_waitMessages :
    ∀ message ∈ device.waitMessages, ∃ register, message = .waitingForKey register := by
  intro message hmem
  unfold waitMessages at hmem
  split at hmem
  · exact ⟨_, by simpa using hmem⟩
  · simp at hmem

/-- The log and the messages of a frame or a step are about what was fetched in it, in this order.
Every fetch is on record, also if the instruction is refused, but none that failed.  Every word that
is no instruction is on record with its address, and the host is told of it.  The fault that halts
the device is on record once, if the host is told of one.  A frame that breaks off leaves nothing on
record. -/
theorem tick_and_step_recorded (device : Device) (delta : Float) :
    Recorded device.fetchingInFrame device.config.cyclesPerFrame (device.tick delta) ∧
      Recorded device.fetchingInStep 1 device.step ∧
      ∀ reason, (device.serve (.tick (.error reason))).log = #[] := by
  refine ⟨?_, ?_, fun reason => ?_⟩
  · cases hrunning : device.running with
    | false =>
      rw [tick_of_not_running hrunning, fetchingInFrame, hrunning]
      exact recorded_nothing device _
    | true =>
      rw [tick_of_running hrunning, fetchingInFrame, if_pos hrunning]
      exact @recorded_cycles (device.passTimers.withClock _ _) hrunning _ _
        waitingForKey_of_mem_waitMessages
  · cases hrunning : device.running with
    | false =>
      have hidle : ¬device.InOperation := fun hoperation => by simp [hoperation.1] at hrunning
      have hnews : device.waitMessages = #[] := by simp [waitMessages, hrunning]
      rw [step_of_not_inOperation hidle, fetchingInStep, hrunning, hnews]
      exact recorded_nothing device _
    | true =>
      rw [fetchingInStep, if_pos hrunning]
      by_cases hoperation : device.InOperation
      · have hrecorded := @recorded_cycles device hrunning 1 #[] (by simp)
        dsimp only at hrecorded
        rw [cycles_one_of_inOperation hoperation, Array.append_empty] at hrecorded
        rw [step_of_inOperation hoperation]
        exact hrecorded
      · have hrecorded :=
          @recorded_cycles device hrunning 1 device.waitMessages waitingForKey_of_mem_waitMessages
        dsimp only at hrecorded
        rw [cycles_of_not_inOperation hoperation, Array.empty_append] at hrecorded
        rw [step_of_not_inOperation hoperation]
        exact hrecorded
  · simp only [serve, tickUntimed]
    cases device.running <;> rfl

/-- A program that begins with a word that is no instruction and then jumps to the last byte of
memory. -/
example :
    (Device.create .standard 0).toOption.map (fun created =>
      let device := created.after [.loadRom [0x00, 0x01, 0x1F, 0xFF], .start]
      (device.tick 0).log.toList.map Log.Entry.text) =
    some ["$200: 0001 UNKNOWN", "Unknown opcode $0001 at $200 skipped", "$202: 1FFF JP",
      "Machine fault, stopping: Memory access out of range: $1000 (PC=$FFF)"] := by
  decide +kernel

end Device
end Chip8
