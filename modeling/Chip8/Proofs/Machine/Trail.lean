import Chip8.Proofs.Machine.Step

/-!
# The run of a machine, step by step

`Machine.tried` lists the machines at which a step is taken, when a machine takes a number of them:
it takes none while it waits for a key, and none behind a fault.  Whatever else there is to say of
the run is read off this list: the machines whose instruction is executed (`Machine.trail`), the
words of these instructions (`Machine.executed`), and the machines that fetch a word at all, be it
refused or not (`Machine.fetching`).
-/

namespace Chip8
namespace Machine

/-- The machines at which a step is taken, of a number of steps, in order. -/
def tried (rules : Rules) : Nat → Machine → List Machine
  | 0, _ => []
  | count + 1, machine =>
    if machine.cpu.awaitingKey then []
    else machine ::
      match (machine.step rules).value.result with
      | .error _ => []
      | .ok _ => tried rules count (machine.step rules).value.machine

/-- Whether the step that is taken at a machine carries its instruction out. -/
def succeeds (rules : Rules) (machine : Machine) : Bool :=
  (machine.step rules).value.result.isOk

/-- The machines at the instructions that a machine executes in a number of steps. -/
def trail (rules : Rules) (count : Nat) (machine : Machine) : List Machine :=
  (machine.tried rules count).filter (succeeds rules)

/-- The words that a machine executes in a number of steps. -/
def executed (rules : Rules) (count : Nat) (machine : Machine) : List Word :=
  (machine.trail rules count).map nextWord

/-- The machines that fetch a word in a number of steps, each as it is before. -/
def fetching (rules : Rules) (count : Nat) (machine : Machine) : List Machine :=
  (machine.tried rules count).filter fun tried => tried.CanFetch

variable {rules : Rules} {machine next : Machine} {count : Nat} {trace : Array Log.Entry}

/-! ## Steps that are tried -/

theorem tried_of_awaitingKey (h : machine.cpu.awaitingKey = true) :
    machine.tried rules count = [] := by
  cases count with
  | zero => rfl
  | succ count => rw [tried, if_pos h]

theorem tried_succ_of_error {fault : Fault} (hwait : machine.cpu.awaitingKey = false)
    (h : machine.step rules = ⟨⟨next, .error fault⟩, trace⟩) :
    machine.tried rules (count + 1) = [machine] := by
  simp only [tried, hwait, h, Bool.false_eq_true, if_false]

theorem tried_succ_of_ok {instruction : Instruction} (hwait : machine.cpu.awaitingKey = false)
    (h : machine.step rules = ⟨⟨next, .ok instruction⟩, trace⟩) :
    machine.tried rules (count + 1) = machine :: next.tried rules count := by
  simp only [tried, hwait, h, Bool.false_eq_true, if_false]

theorem length_tried_le (rules : Rules) (count : Nat) (machine : Machine) :
    (machine.tried rules count).length ≤ count := by
  induction count generalizing machine with
  | zero => exact Nat.le_refl 0
  | succ count ih =>
    rw [tried]
    split
    · exact Nat.zero_le _
    · refine Nat.succ_le_succ ?_
      split
      · exact Nat.zero_le _
      · exact ih _

/-! ## Instructions that are executed -/

@[simp] theorem trail_zero : machine.trail rules 0 = [] := rfl

theorem trail_of_awaitingKey (h : machine.cpu.awaitingKey = true) :
    machine.trail rules count = [] := by
  rw [trail, tried_of_awaitingKey h, List.filter_nil]

theorem trail_of_error {fault : Fault} (h : machine.step rules = ⟨⟨next, .error fault⟩, trace⟩) :
    machine.trail rules count = [] := by
  have hfails : machine.succeeds rules = false := by
    rw [succeeds, h]
    rfl
  cases count with
  | zero => rfl
  | succ count =>
    cases hwait : machine.cpu.awaitingKey with
    | true => exact trail_of_awaitingKey hwait
    | false =>
      rw [trail, tried_succ_of_error hwait h, List.filter_cons_of_neg (by simp [hfails]),
        List.filter_nil]

theorem trail_succ_of_ok {instruction : Instruction} (hwait : machine.cpu.awaitingKey = false)
    (h : machine.step rules = ⟨⟨next, .ok instruction⟩, trace⟩) :
    machine.trail rules (count + 1) = machine :: next.trail rules count := by
  have hsucceeds : machine.succeeds rules = true := by
    rw [succeeds, h]
    rfl
  rw [trail, tried_succ_of_ok hwait h, List.filter_cons_of_pos hsucceeds, trail]

@[simp] theorem executed_zero : machine.executed rules 0 = [] := rfl

theorem executed_of_awaitingKey (h : machine.cpu.awaitingKey = true) :
    machine.executed rules count = [] := by
  rw [executed, trail_of_awaitingKey h, List.map_nil]

theorem executed_of_error {fault : Fault}
    (h : machine.step rules = ⟨⟨next, .error fault⟩, trace⟩) :
    machine.executed rules count = [] := by
  rw [executed, trail_of_error h, List.map_nil]

theorem executed_succ_of_ok {instruction : Instruction} (hwait : machine.cpu.awaitingKey = false)
    (h : machine.step rules = ⟨⟨next, .ok instruction⟩, trace⟩) :
    machine.executed rules (count + 1) = machine.nextWord :: next.executed rules count := by
  rw [executed, trail_succ_of_ok hwait h, List.map_cons, executed]

/-! ## Words that are fetched -/

@[simp] theorem fetching_zero : machine.fetching rules 0 = [] := rfl

theorem fetching_of_awaitingKey (h : machine.cpu.awaitingKey = true) :
    machine.fetching rules count = [] := by
  rw [fetching, tried_of_awaitingKey h, List.filter_nil]

theorem fetching_succ_of_error {fault : Fault} (hwait : machine.cpu.awaitingKey = false)
    (h : machine.step rules = ⟨⟨next, .error fault⟩, trace⟩) (count : Nat) :
    machine.fetching rules (count + 1) = if machine.CanFetch then [machine] else [] := by
  rw [fetching, tried_succ_of_error hwait h, List.filter_cons, List.filter_nil]
  simp only [decide_eq_true_eq]

theorem fetching_succ_of_ok {instruction : Instruction} (hwait : machine.cpu.awaitingKey = false)
    (hcan : machine.CanFetch) (h : machine.step rules = ⟨⟨next, .ok instruction⟩, trace⟩)
    (count : Nat) :
    machine.fetching rules (count + 1) = machine :: next.fetching rules count := by
  rw [fetching, tried_succ_of_ok hwait h, List.filter_cons_of_pos (by simpa using hcan), fetching]

theorem canFetch_of_mem_fetching {fetched : Machine} (h : fetched ∈ machine.fetching rules count) :
    fetched.CanFetch :=
  of_decide_eq_true (List.mem_filter.1 h).2

theorem length_fetching_le (rules : Rules) (count : Nat) (machine : Machine) :
    (machine.fetching rules count).length ≤ count :=
  Nat.le_trans (List.length_filter_le _ _) (length_tried_le rules count machine)

end Machine
end Chip8
