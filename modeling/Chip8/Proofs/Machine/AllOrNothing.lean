import Chip8.Machine.Execute
import Chip8.Proofs.Memory.Access

/-!
# An instruction is carried out in full or not at all

`Machine.attempt` works on a machine step by step, and an attempt that breaks off leaves what it did
by then.  `Machine.attempt_eq_whole` says that nothing is ever left half done: each instruction
looks for every reason to refuse it before it changes the first register or byte.  With that,
`Machine.execute` tells all that there is to know about an instruction, and `Machine.step` is
`fetch` followed by `execute`.
-/

namespace Chip8
namespace Machine

/-- A block of bytes is written to the memory of a machine in full or not at all. -/
theorem onMemory_attemptWriteBlock (address : Int) (values : List Int) :
    onMemory (Memory.attemptWriteBlock address values) =
      .whole fun machine => (fun memory => .silent { machine with memory }) <$>
        machine.memory.writeBlock address values := by
  rw [onMemory, Memory.attemptWriteBlock_eq_whole, Attempt.within_whole (fun _ => rfl)]
  refine congrArg Attempt.whole (funext fun machine => ?_)
  cases machine.memory.writeBlock address values <;> rfl

/-- VF is zeroed once the rows are there and set again after a collision, which is to set it
once. -/
theorem attemptDraw_eq_whole (rules : Rules) (x y : Register) (n : Fin 16) :
    attemptDraw rules x y n =
      .whole fun machine => .silent <$> machine.drawSprite rules x y n := by
  have hflag (cpu : Cpu) (collision : Bool) :
      (if collision then (cpu.set .flag 0).set .flag 1 else cpu.set .flag 0) =
        cpu.set .flag (Alu.flagOf collision) := by
    cases collision
    · rfl
    · simp only [Cpu.set, Vector.set_set, Alu.flagOf, if_true]
  simp only [attemptDraw, changeCpu, Attempt.change_bind_change]
  simp only [Attempt.change, Attempt.check_bind_proceed, Attempt.state_bind_whole, hflag]
  refine congrArg Attempt.whole (funext fun machine => ?_)
  dsimp only [drawSprite]
  cases machine.memory.readBlock machine.cpu.index n.val <;> rfl

/-- Every reason to refuse an instruction comes before the first change that it makes. -/
theorem attempt_eq_whole (rules : Rules) (i : Instruction) :
    attempt rules i = .whole fun machine =>
      (fun next => ⟨next, machine.remarks i⟩) <$> machine.execute rules i := by
  cases i with
  | ret =>
    funext reached
    obtain ⟨⟨⟨_, _, _, stack, _, _, _, _⟩, _, _, _, _⟩, _⟩ := reached
    cases stack <;> rfl
  | call target =>
    simp only [attempt, changeCpu, Attempt.change_bind_change]
    simp only [Attempt.change, Attempt.refuseIf_bind_proceed, Attempt.state_bind_whole]
    refine congrArg Attempt.whole (funext fun machine => ?_)
    simp only [execute]
    split <;> rfl
  | skip condition =>
    simp only [attempt, changeCpu, Attempt.change, Attempt.proceed_eq_whole,
      Attempt.state_bind_whole]
    refine congrArg Attempt.whole (funext fun machine => ?_)
    simp only [execute]
    split <;> rfl
  | random x kk =>
    simp only [attempt, changeCpu, Attempt.change_bind_change]
    simp only [Attempt.change, Attempt.proceed_eq_whole, Attempt.state_bind_whole]
    rfl
  | draw x y n => exact attemptDraw_eq_whole rules x y n
  | awaitKey => exact Attempt.change_bind_change _ _
  | storeDecimal =>
    simp only [attempt, onMemory_attemptWriteBlock, Attempt.state_bind_whole]
    refine congrArg Attempt.whole (funext fun machine => ?_)
    simp only [execute]
    cases machine.memory.writeBlock machine.cpu.index _ <;> rfl
  | storeRegisters =>
    simp only [attempt, onMemory_attemptWriteBlock, changeCpu, Attempt.change,
      Attempt.whole_bind_proceed, Attempt.state_bind_whole]
    refine congrArg Attempt.whole (funext fun machine => ?_)
    simp only [execute]
    cases machine.memory.writeBlock machine.cpu.index _ <;> rfl
  | loadRegisters =>
    simp only [attempt, changeCpu, Attempt.change_bind_change]
    simp only [Attempt.change, Attempt.check_bind_proceed, Attempt.state_bind_whole]
    refine congrArg Attempt.whole (funext fun machine => ?_)
    simp only [execute]
    cases machine.memory.readBlock machine.cpu.index _ <;> rfl
  | _ => rfl

/-! ## Fetching first -/

section

variable {rules : Rules} {machine fetched next : Machine} {word : Word} {cause : FaultCause}

theorem run_attemptFetch_of_error (h : machine.fetch = .error cause) (trace : Array Log.Entry) :
    attemptFetch.run ⟨machine, trace⟩ = .error cause ⟨machine, trace⟩ := by
  have hread : machine.memory.readWord machine.cpu.pc = .error cause := by
    simpa only [fetch, bind_pure_comp, map_eq_error_iff] using h
  simp only [attemptFetch, EStateM.run_bind, Attempt.run_state, hread, Attempt.run_check_error]

theorem run_attemptFetch_of_ok (h : machine.fetch = .ok (word, fetched))
    (trace : Array Log.Entry) :
    attemptFetch.run ⟨machine, trace⟩ = .ok word ⟨fetched, trace⟩ := by
  obtain ⟨read, hread, hfetched⟩ :
      ∃ word, machine.memory.readWord machine.cpu.pc = .ok word ∧ _ := by
    simpa only [fetch, bind_pure_comp, map_eq_ok_iff] using h
  cases hfetched
  simp only [attemptFetch, EStateM.run_bind, Attempt.run_state, hread, Attempt.run_check_ok]
  rfl

/-- An instruction that is passed over is not refused, and no other is remarked on. -/
theorem remarks_of_execute_eq_error {i : Instruction} (h : machine.execute rules i = .error cause) :
    machine.remarks i = #[] := by
  cases i with
  | ret => cases hstack : machine.cpu.stack <;> simp [execute, hstack] at h
  | unknown word => cases h
  | _ => rfl

theorem on_attemptStep_of_fetch_eq_error (rules : Rules) (h : machine.fetch = .error cause) :
    (attemptStep rules).on machine =
      .error ⟨cause, some machine.cpu.pc⟩ (.silent machine) := by
  have hfetch := run_attemptFetch_of_error h #[]
  simp only [attemptStep, Attempt.on, Traced.silent, EStateM.run_bind, Attempt.run_state,
    EStateM.run_adaptExcept, hfetch]

/-- Once the word is fetched and on record, a step comes to what its instruction comes to. -/
theorem on_attemptStep_of_fetch_eq_ok (rules : Rules) (h : machine.fetch = .ok (word, fetched)) :
    (attemptStep rules).on machine =
      match fetched.execute rules (.decode word.val) with
      | .ok next => .ok (.decode word.val)
          ⟨next, #[.fetched machine.cpu.pc (.decode word.val)] ++
            fetched.remarks (.decode word.val)⟩
      | .error cause => .error ⟨cause, some machine.cpu.pc⟩
          ⟨fetched, #[.fetched machine.cpu.pc (.decode word.val)] ++
            fetched.remarks (.decode word.val)⟩ := by
  have hfetch := run_attemptFetch_of_ok h #[]
  have hreport : (⟨fetched, #[]⟩ : Logged Machine) >>=
      (fun s => ⟨s, #[.fetched machine.cpu.pc (.decode word.val)]⟩) =
        ⟨fetched, #[.fetched machine.cpu.pc (.decode word.val)]⟩ := rfl
  simp only [attemptStep, Attempt.on, Traced.silent, Attempt.report, attempt_eq_whole,
    EStateM.run_bind, EStateM.run_pure, EStateM.run_adaptExcept, Attempt.run_state,
    Attempt.run_proceed, hfetch, hreport]
  cases hexec : fetched.execute rules (.decode word.val) with
  | error cause =>
    rw [Attempt.run_whole_of_error (by simp only [hexec]; rfl), remarks_of_execute_eq_error hexec]
    rfl
  | ok next =>
    rw [Attempt.run_whole_of_ok (by simp only [hexec]; rfl)]
    rfl

end

end Machine
end Chip8
