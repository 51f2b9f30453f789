import Chip8.Proofs.Device.Session

/-!
# Which instructions a session runs

An instruction that a device fetches is put on record with the address that it was fetched from.
`Log.fetches` reads the fetches off a log, and says so which instructions ran and in which order,
whatever mix of frames and steps they ran in.

A request other than a reset or another program either leaves the program where it is or runs
instructions from there (`Device.serve_cases`).  What holds of the fetches so far and the device,
and is kept by one instruction, is therefore kept by a session (`Device.after_tracking`).
-/

namespace Chip8
namespace Log

/-- The address and the instruction of a fetch. -/
def Entry.fetch? : Entry → Option (Int × Instruction)
  | .fetched pc instruction => some (pc, instruction)
  | _ => none

/-- The fetches on record, oldest first. -/
def fetches (log : Array Entry) : List (Int × Instruction) :=
  log.toList.filterMap Entry.fetch?

@[simp] theorem fetches_empty : fetches #[] = [] := rfl

@[simp] theorem fetches_append (first second : Array Entry) :
    fetches (first ++ second) = fetches first ++ fetches second := by
  simp [fetches]

end Log

namespace Device

/-- The program of `later` is where that of `device` is, and waits for a key only if that does. -/
structure AtSamePlace (device later : Device) : Prop where
  pc : later.machine.cpu.pc = device.machine.cpu.pc
  wait : later.awaitingKey = true →
    device.awaitingKey = true ∧ later.machine.cpu.keyRegister = device.machine.cpu.keyRegister

theorem AtSamePlace.of_cpu_eq {device later : Device} (h : later.machine.cpu = device.machine.cpu) :
    AtSamePlace device later := by
  refine ⟨by rw [h], fun hwait => ?_⟩
  rw [awaitingKey, h] at hwait
  exact ⟨hwait, by rw [h]⟩

variable {device : Device}

/-! ## One instruction -/

theorem fetches_stepTrace (machine : Machine) :
    Log.fetches machine.stepTrace = [(machine.cpu.pc, machine.nextInstruction)] := by
  have hremarks : Log.fetches (machine.advance.remarks machine.nextInstruction) = [] := by
    unfold Machine.remarks
    split
    · split <;> rfl
    · rfl
    · rfl
  rw [Machine.stepTrace, Log.fetches_append, hremarks]
  rfl

/-- A cycle fetches nothing, or what stands at the program counter.  If the device waits then, it
waits for what it fetched. -/
theorem fetches_cycle_cases (device : Device) :
    (¬device.machine.CanFetch ∧ Log.fetches device.cycle.log = [] ∧
      AtSamePlace device device.cycle.device) ∨
    (Log.fetches device.cycle.log = [(device.machine.cpu.pc, device.machine.nextInstruction)] ∧
      (device.awaitingKey = false → device.cycle.device.awaitingKey = true →
        device.machine.nextInstruction =
            .awaitKey device.cycle.device.machine.cpu.keyRegister ∧
          device.cycle.device.machine.cpu.pc = device.machine.cpu.pc + 2)) := by
  rcases Machine.step_cases device.rules device.machine with
    ⟨cause, hfetch, hstep⟩ | ⟨cause, -, -, hstep⟩ | ⟨next, -, hexec, hstep⟩
  · rw [cycle_of_error hstep]
    refine Or.inl ⟨fun hcan => ?_, rfl, .of_cpu_eq rfl⟩
    rw [Machine.fetch_eq_ok hcan] at hfetch
    cases hfetch
  · rw [cycle_of_error hstep]
    refine Or.inr ⟨?_, fun hnot hwait => ?_⟩
    · simp only [Array.push_eq_append, Log.fetches_append, fetches_stepTrace]
      rfl
    · have hsame : device.awaitingKey = true := hwait
      rw [hnot] at hsame
      cases hsame
  · rw [cycle_of_ok hstep]
    refine Or.inr ⟨fetches_stepTrace device.machine, fun hnot hwait => ?_⟩
    by_cases hawait : ∃ x, device.machine.nextInstruction = .awaitKey x
    · obtain ⟨x, hx⟩ := hawait
      rw [hx] at hexec ⊢
      cases hexec
      exact ⟨rfl, rfl⟩
    · have hkept :=
        (Machine.execute_footprint hexec).awaitingKey_of_other fun x hx => hawait ⟨x, hx⟩
      have hsame : device.awaitingKey = true := hkept.symm.trans hwait
      rw [hnot] at hsame
      cases hsame

theorem fetches_serve_step (hoperation : device.InOperation) (hcan : device.machine.CanFetch) :
    Log.fetches (device.serve .step).log =
      [(device.machine.cpu.pc, device.machine.nextInstruction)] := by
  simp only [serve, Served.ofRan, step_of_inOperation hoperation]
  rcases fetches_cycle_cases device with ⟨hcannot, -, -⟩ | ⟨hlog, -⟩
  · exact absurd hcan hcannot
  · exact hlog

/-! ## Requests -/

theorem fetches_setKey (device : Device) (key : Key) (pressed : Bool) :
    Log.fetches (device.setKey key pressed).trace = [] := by
  unfold setKey Machine.resolveKey
  dsimp only
  split
  next =>
    split <;> rfl
  next => rfl

/-- A request that runs no instructions fetches none. -/
theorem fetches_serve_of_not_runs (device : Device) {request : Request}
    (hruns : request.runs = false) : Log.fetches (device.serve request).log = [] := by
  cases request with
  | start =>
    simp only [serve, Served.ofLogged, start]
    cases device.fault with
    | some fault => rfl
    | none => cases device.romSize <;> rfl
  | stop | reset => rfl
  | loadRom data =>
    rw [serve_loadRom]
    cases Rom.ofBytes data <;> rfl
  | loadFont offset font =>
    rw [serve_loadFont]
    cases device.machine.memory.loadFont offset (font.getD device.machine.memory.font) <;> rfl
  | setKey id pressed =>
    rw [serve_setKey]
    cases Key.ofInt? id with
    | none => rfl
    | some key => exact fetches_setKey device key pressed
  | tick delta =>
    cases delta with
    | ok delta => cases hruns
    | error reason =>
      simp only [serve, tickUntimed]
      cases device.running <;> rfl
  | step => cases hruns

theorem AtSamePlace.of_becomes {later : Device} {request : Request}
    (hkeeps : request.keepsProgram = true) (hruns : request.runs = false)
    (hbecomes : device.Becomes request later) : AtSamePlace device later := by
  cases hbecomes with
  | reset | romRefused | romLoaded => cases hkeeps
  | ticked | stepped => cases hruns
  | resumed => exact ⟨rfl, fun hwait => absurd hwait Bool.false_ne_true⟩
  | _ => exact .of_cpu_eq rfl

/-- A request other than a reset or another program leaves the program where it is, or runs
instructions from there. -/
theorem serve_cases (device : Device) {request : Request} (hkeeps : request.keepsProgram = true) :
    (AtSamePlace device (device.serve request).device ∧
      Log.fetches (device.serve request).log = []) ∨
    ∃ started count, AtSamePlace device started ∧
      (device.serve request).device = (cycles count ⟨started, #[], #[]⟩).device ∧
      (device.serve request).log = (cycles count ⟨started, #[], #[]⟩).log := by
  cases request with
  | tick delta =>
    cases delta with
    | ok delta =>
      cases hrunning : device.running with
      | false =>
        left
        simp only [serve, tick_of_not_running hrunning]
        exact ⟨.of_cpu_eq rfl, rfl⟩
      | true =>
        right
        refine ⟨device.passTimers.withClock (device.frames + 1) (device.elapsed + delta),
          device.config.cyclesPerFrame, ⟨rfl, fun hwait => ⟨hwait, rfl⟩⟩, ?_⟩
        simp only [serve, tick_of_running hrunning]
        exact ⟨rfl, rfl⟩
    | error reason =>
      exact Or.inl ⟨.of_becomes rfl rfl (becomes_serve device _),
        fetches_serve_of_not_runs device rfl⟩
  | step =>
    by_cases hoperation : device.InOperation
    · refine Or.inr ⟨device, 1, .of_cpu_eq rfl, ?_⟩
      simp only [serve, step_of_inOperation hoperation, cycles_one_of_inOperation hoperation]
      exact ⟨rfl, rfl⟩
    · left
      simp only [serve, step_of_not_inOperation hoperation]
      exact ⟨.of_cpu_eq rfl, rfl⟩
  | _ =>
    exact Or.inl ⟨.of_becomes hkeeps rfl (becomes_serve device _),
      fetches_serve_of_not_runs device rfl⟩

/-! ## Sessions -/

section

variable {motive : List (Int × Instruction) → Device → Prop}
  (hstay : ∀ fetched device later, motive fetched device → AtSamePlace device later →
    motive fetched later)
  (hcycle : ∀ fetched device, motive fetched device → device.InOperation →
    motive (fetched ++ Log.fetches device.cycle.log) device.cycle.device)
include hstay hcycle

/-- What holds of the fetches so far and the device, and is kept by one instruction and wherever the
program stays in its place, is kept by a request. -/
theorem serve_tracking {fetched : List (Int × Instruction)} {request : Request}
    (hkeeps : request.keepsProgram = true) (h : motive fetched device) :
    motive (fetched ++ Log.fetches (device.serve request).log) (device.serve request).device := by
  rcases serve_cases device hkeeps with
    ⟨hplace, hlog⟩ | ⟨started, count, hplace, hdevice, hlog⟩
  · rw [hlog, List.append_nil]
    exact hstay _ _ _ h hplace
  · rw [hdevice, hlog]
    refine cycles_induction
      (motive := fun ran => motive (fetched ++ Log.fetches ran.log) ran.device)
      (fun ran hran hoperation => ?_) count ?_
    · have hanother := hcycle _ _ hran hoperation
      rw [List.append_assoc, ← Log.fetches_append] at hanother
      exact hanother
    · simpa using hstay _ _ _ h hplace

theorem after_tracking {fetched : List (Int × Instruction)} {requests : List Request}
    (hkeep : ∀ request ∈ requests, request.keepsProgram = true) (h : motive fetched device) :
    motive (fetched ++ Log.fetches (device.logDuring requests)) (device.after requests) := by
  induction requests generalizing device fetched with
  | nil => simpa using h
  | cons request rest ih =>
    have hserved := serve_tracking hstay hcycle (hkeep request List.mem_cons_self) h
    have hrest := ih (fun other hmem => hkeep other (List.mem_cons_of_mem request hmem)) hserved
    rw [List.append_assoc, ← Log.fetches_append] at hrest
    exact hrest

end

/-- The first instruction that some requests run is the one at the program counter. -/
theorem head?_fetches_logDuring {requests : List Request}
    (hkeep : ∀ request ∈ requests, request.keepsProgram = true) :
    ∀ fetch ∈ (Log.fetches (device.logDuring requests)).head?,
      fetch.1 = device.machine.cpu.pc := by
  have htracked := after_tracking
    (motive := fun fetched later => (fetched = [] ∧ later.machine.cpu.pc = device.machine.cpu.pc) ∨
      ∃ instruction, fetched.head? = some (device.machine.cpu.pc, instruction))
    ?hstay ?hcycle hkeep (Or.inl ⟨rfl, rfl⟩)
  case hstay =>
    rintro fetched first later (⟨hnone, hpc⟩ | hsome) hplace
    · exact Or.inl ⟨hnone, hplace.pc.trans hpc⟩
    · exact Or.inr hsome
  case hcycle =>
    rintro fetched first (⟨rfl, hpc⟩ | ⟨instruction, hsome⟩) -
    · rcases fetches_cycle_cases first with ⟨-, hlog, hplace⟩ | ⟨hlog, -⟩
      · exact Or.inl ⟨hlog, hplace.pc.trans hpc⟩
      · exact Or.inr ⟨_, by rw [hlog, ← hpc]; rfl⟩
    · exact Or.inr ⟨instruction, by rw [List.head?_append, hsome]; rfl⟩
  intro fetch hfetch
  rcases htracked with ⟨hnone, -⟩ | ⟨instruction, hsome⟩
  · rw [List.nil_append] at hnone
    rw [hnone] at hfetch
    cases hfetch
  · rw [List.nil_append] at hsome
    rw [hsome] at hfetch
    cases hfetch
    rfl

/-- If the device waits, what was fetched last is the instruction that waits, and the program
counter stands behind it. -/
def WaitOnRecord (fetched : List (Int × Instruction)) (device : Device) : Prop :=
  device.awaitingKey = true →
    fetched.getLast? =
      some (device.machine.cpu.pc - 2, .awaitKey device.machine.cpu.keyRegister)

theorem WaitOnRecord.serve {fetched : List (Int × Instruction)} (h : WaitOnRecord fetched device)
    (request : Request) :
    WaitOnRecord (fetched ++ Log.fetches (device.serve request).log)
      (device.serve request).device := by
  cases hkeeps : request.keepsProgram with
  | true =>
    refine serve_tracking ?hstay ?hcycle hkeeps h
    case hstay =>
      intro fetched first later hrecord hplace hwait
      obtain ⟨hfirst, hregister⟩ := hplace.wait hwait
      rw [hplace.pc, hregister]
      exact hrecord hfirst
    case hcycle =>
      intro fetched first hrecord hoperation hwait
      rcases fetches_cycle_cases first with ⟨-, -, hplace⟩ | ⟨hlog, hawait⟩
      · have hfirst := (hplace.wait hwait).1
        rw [hoperation.2] at hfirst
        cases hfirst
      · obtain ⟨hinstruction, hpc⟩ := hawait hoperation.2 hwait
        rw [hlog, List.getLast?_append, hpc, hinstruction, Int.add_sub_cancel]
        rfl
  | false =>
    have hruns : request.runs = false := by
      cases request with
      | reset | loadRom data => rfl
      | _ => cases hkeeps
    rw [fetches_serve_of_not_runs device hruns, List.append_nil]
    have hbecomes := becomes_serve device request
    generalize (device.serve request).device = later at hbecomes ⊢
    cases hbecomes with
    | reset | romLoaded =>
      intro hwait
      cases hwait
    | romRefused => exact h
    | _ => cases hkeeps

theorem WaitOnRecord.after {fetched : List (Int × Instruction)} (h : WaitOnRecord fetched device)
    (requests : List Request) :
    WaitOnRecord (fetched ++ Log.fetches (device.logDuring requests)) (device.after requests) := by
  induction requests generalizing device fetched with
  | nil => simpa using h
  | cons request rest ih =>
    have hrest := ih (h.serve request)
    rw [List.append_assoc, ← Log.fetches_append] at hrest
    exact hrest

/-- A device that waits stands behind the instruction that was run last, which is one that waits. -/
theorem waitOnRecord_session {config : Config} {entropy : Int} {created : Device}
    (hcreate : Device.create config entropy = .ok created) (history : List Request) :
    WaitOnRecord (Log.fetches (created.logDuring history)) (created.after history) := by
  have hnew : WaitOnRecord [] created := by
    obtain ⟨machine, hmachine, rfl⟩ := create_eq_ok_iff.1 hcreate
    simp only [Machine.withFont, bind_pure_comp, map_eq_ok_iff] at hmachine
    obtain ⟨memory, -, rfl⟩ := hmachine
    exact fun hwait => nomatch hwait
  exact hnew.after history

end Device
end Chip8
