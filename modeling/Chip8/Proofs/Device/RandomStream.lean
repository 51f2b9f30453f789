import Mathlib.Data.List.Basic
import Chip8.Proofs.Device.Fetches
import Chip8.Proofs.Device.Timers

/-!
# One stream of random bytes

A device draws its random bytes from one generator for as long as it exists.  The instruction for a
random number takes the next byte, and nothing else takes one: no other instruction, no fault, no
reset and no program that is loaded.  So the bytes that a device draws are those of the stream of
its seed, in order, whatever is requested of it in between (`Device.random_stream`).

The draws of a session are read off the machines at the instructions that are executed
(`Device.drawsDuring`).  What a piece of a session does to the generator, `Twister.Drew` says of it:
which draws it holds, what is left of the generator behind them, and that the log tells of the same
draws.  Pieces follow one another (`Twister.Drew.append`), from a cycle to a frame and from a
request to a session.
-/

namespace Chip8

/-- A random number that a program was given: the register that it went into, the bits that were
kept of the byte, and what the register holds then. -/
structure Drawn where
  register : Register
  mask : UInt8
  value : Int
  deriving DecidableEq

namespace Drawn

/-- The operands of the instruction that asked for a random number. -/
def operands (drawn : Drawn) : Register × UInt8 :=
  (drawn.register, drawn.mask)

end Drawn

namespace Instruction

/-- The operands of the instruction for a random number. -/
def drawOperands? : Instruction → Option (Register × UInt8)
  | random x kk => some (x, kk)
  | _ => none

end Instruction

/-- The operands of the instructions for random numbers that are on record, oldest first. -/
def Log.draws (log : Array Log.Entry) : List (Register × UInt8) :=
  (Log.fetches log).filterMap fun fetch => fetch.2.drawOperands?

theorem Log.draws_append (first second : Array Log.Entry) :
    Log.draws (first ++ second) = Log.draws first ++ Log.draws second := by
  rw [Log.draws, Log.fetches_append, List.filterMap_append]
  rfl

namespace Twister

/-- What is left of a generator when some bytes have been drawn. -/
def afterBytes : Nat → Twister → Twister
  | 0, twister => twister
  | count + 1, twister => afterBytes count twister.byte.2

/-- The byte that a generator yields when some bytes have been drawn before. -/
def byteAfter (twister : Twister) (count : Nat) : UInt8 :=
  (afterBytes count twister).byte.1

/-- The stream of bytes that a seed fixes. -/
def stream (seed : Int) (place : Nat) : UInt8 :=
  (ofSeed seed).byteAfter place

theorem afterBytes_add (twister : Twister) (first second : Nat) :
    afterBytes (first + second) twister = afterBytes second (afterBytes first twister) := by
  induction first generalizing twister with
  | zero => rw [Nat.zero_add, afterBytes]
  | succ first ih => rw [Nat.succ_add, afterBytes, afterBytes, ih]

/-- The random numbers are those that the bytes of a generator make, in order. -/
def Yields (twister : Twister) (draws : List Drawn) : Prop :=
  ∀ (place : Nat) (drawn : Drawn), draws[place]? = some drawn →
    drawn.value = (twister.byteAfter place &&& drawn.mask).toNat

theorem Yields.append {twister : Twister} {draws later : List Drawn} (h : twister.Yields draws)
    (hlater : (afterBytes draws.length twister).Yields later) :
    twister.Yields (draws ++ later) := by
  intro place drawn hdrawn
  by_cases hplace : place < draws.length
  · rw [List.getElem?_append_left hplace] at hdrawn
    exact h place drawn hdrawn
  · have hsplit : draws.length + (place - draws.length) = place := by omega
    rw [List.getElem?_append_right (Nat.not_lt.1 hplace)] at hdrawn
    rw [hlater _ drawn hdrawn, byteAfter, ← afterBytes_add, hsplit]
    rfl

/-- From one state of a generator to another some random numbers were drawn, and they are on
record. -/
structure Drew (start : Twister) (draws : List Drawn) (left : Twister) (log : Array Log.Entry) :
    Prop where
  yields : start.Yields draws
  left : left = afterBytes draws.length start
  record : Log.draws log = draws.map Drawn.operands

namespace Drew

variable {start middle left : Twister} {draws later : List Drawn} {log rest : Array Log.Entry}

/-- Nothing was drawn. -/
theorem nothing (hrecord : Log.draws log = []) : Drew start [] start log :=
  ⟨nofun, rfl, hrecord⟩

/-- One random number was drawn. -/
theorem one {drawn : Drawn} (hvalue : drawn.value = (start.byte.1 &&& drawn.mask).toNat)
    (hrecord : Log.draws log = [drawn.operands]) : Drew start [drawn] start.byte.2 log := by
  refine ⟨fun place other hother => ?_, ?_, hrecord⟩
  · cases place with
    | zero =>
      cases hother
      rw [byteAfter, afterBytes]
      exact hvalue
    | succ place => cases hother
  · rw [List.length_singleton, afterBytes, afterBytes]

theorem append (h : Drew start draws middle log) (hrest : Drew middle later left rest) :
    Drew start (draws ++ later) left (log ++ rest) := by
  obtain ⟨hyields, rfl, hrecord⟩ := h
  obtain ⟨hlater, rfl, hlog⟩ := hrest
  refine ⟨hyields.append hlater, ?_, ?_⟩
  · rw [List.length_append, afterBytes_add]
  · rw [Log.draws_append, hrecord, hlog, List.map_append]

end Drew
end Twister

/-! ## One instruction -/

namespace Machine

/-- The random number that the instruction at which a machine stands gives to the program. -/
def drawn? (rules : Rules) (machine : Machine) : Option Drawn :=
  machine.nextInstruction.drawOperands?.map fun (register, mask) =>
    ⟨register, mask, (machine.step rules).value.machine.cpu.get register⟩

variable {rules : Rules} {machine next : Machine} {trace : Array Log.Entry}

theorem draws_stepTrace (machine : Machine) :
    Log.draws machine.stepTrace = machine.nextInstruction.drawOperands?.toList := by
  rw [Log.draws, Device.fetches_stepTrace]
  cases hdraw : machine.nextInstruction.drawOperands? with
  | none => exact List.filterMap_cons_none hdraw
  | some operands => exact List.filterMap_cons_some hdraw

/-- A step at fault draws nothing, for an instruction for a random number is never refused. -/
theorem drew_of_step_error {fault : Fault}
    (h : machine.step rules = ⟨⟨next, .error fault⟩, trace⟩) :
    Twister.Drew machine.random [] next.random trace := by
  rcases step_cases rules machine with
    ⟨cause, -, hstep⟩ | ⟨cause, -, hexec, hstep⟩ | ⟨next', -, -, hstep⟩
  · rw [hstep] at h
    cases h
    exact .nothing rfl
  · rw [hstep] at h
    cases h
    refine .nothing ?_
    rw [draws_stepTrace]
    cases hi : machine.nextInstruction with
    | random x kk =>
      rw [hi, execute_eq_error_iff] at hexec
      rcases hexec with ⟨target, hcall, -⟩ | ⟨count, hspan, -⟩
      · cases hcall
      · cases hspan
    | _ => rfl
  · rw [hstep] at h
    cases h

/-- A step that is carried out draws what its instruction asks for. -/
theorem drew_of_step_ok {instruction : Instruction}
    (h : machine.step rules = ⟨⟨next, .ok instruction⟩, trace⟩) :
    Twister.Drew machine.random (machine.drawn? rules).toList next.random trace := by
  have hresult : (machine.step rules).value.result = .ok instruction := by rw [h]
  obtain ⟨hi, hexec, htrace⟩ := execute_of_result_step hresult
  rw [h] at hexec htrace
  have hrandom : machine.advance.random = machine.random := rfl
  have hleft := (execute_footprint hexec).random
  have hrecord := draws_stepTrace machine
  rw [hrandom] at hleft
  rw [← htrace, ← hi] at hrecord
  unfold drawn?
  rw [h, ← hi]
  cases instruction with
  | random x kk =>
    have hvalue : next.cpu.get x = (machine.random.byte.1 &&& kk).toNat := by
      simp only [execute, Except.ok.injEq] at hexec
      rw [← hexec, Cpu.get_set, if_pos rfl, hrandom]
    rw [Instruction.randomAfter] at hleft
    rw [hleft]
    exact .one hvalue hrecord
  | _ =>
    simp only [Instruction.randomAfter] at hleft
    rw [hleft]
    exact .nothing hrecord

/-- A step takes no byte unless it carries out an instruction for a random number. -/
theorem random_step_of_not_random
    (h : ∀ x kk, (machine.step rules).value.result ≠ .ok (.random x kk)) :
    (machine.step rules).value.machine.random = machine.random := by
  rw [random_step]
  cases hresult : (machine.step rules).value.result with
  | error fault => rfl
  | ok instruction =>
    cases instruction with
    | random x kk => exact absurd hresult (h x kk)
    | _ => rfl

end Machine

namespace Device

variable {device : Device}

/-! ## Frames and steps -/

/-- What was drawn before some cycles and what is drawn in them. -/
theorem drew_cycles {start : Twister} {draws : List Drawn} {ran : Ran}
    (hrunning : ran.device.running = true)
    (h : Twister.Drew start draws ran.device.machine.random ran.log) (count : Nat) :
    Twister.Drew start
      (draws ++ (ran.device.machine.trail ran.device.rules count).filterMap
        (Machine.drawn? ran.device.rules))
      (cycles count ran).device.machine.random (cycles count ran).log := by
  induction count generalizing ran draws with
  | zero =>
    rw [Machine.trail_zero, List.filterMap_nil, List.append_nil]
    exact h
  | succ count ih =>
    rcases cycles_succ_cases hrunning count with
      ⟨hwait, hcycles⟩ | ⟨next, fault, trace, -, hstep, hcycles, hanother⟩ |
      ⟨next, instruction, trace, hwait, hstep, hcycles, hanother⟩
    · rw [hcycles, Machine.trail_of_awaitingKey hwait, List.filterMap_nil, List.append_nil]
      exact h
    · have hlog : ran.another.log = ran.log ++ trace.push (.faulted fault) := by
        rw [Ran.another, cycle_of_error hstep]
      have hstopped : Twister.Drew ran.device.machine.random [] next.random
          (trace.push (.faulted fault)) := by
        obtain ⟨hyields, hleft, hrecord⟩ := Machine.drew_of_step_error hstep
        refine ⟨hyields, hleft, ?_⟩
        rw [Array.push_eq_append, Log.draws_append, hrecord]
        rfl
      rw [hcycles, hanother, hlog, Machine.trail_of_error hstep]
      exact h.append hstopped
    · have hlog : ran.another.log = ran.log ++ trace := by
        rw [Ran.another, cycle_of_ok hstep]
      have hdrew : Twister.Drew start (draws ++ (ran.device.machine.drawn? ran.device.rules).toList)
          ran.another.device.machine.random ran.another.log := by
        rw [hanother, hlog]
        exact h.append (Machine.drew_of_step_ok hstep)
      have hrest := ih (by rw [hanother]; exact hrunning) hdrew
      have htrail : (ran.device.machine.trail ran.device.rules (count + 1)).filterMap
          (Machine.drawn? ran.device.rules) =
          (ran.device.machine.drawn? ran.device.rules).toList ++
            (next.trail ran.device.rules count).filterMap (Machine.drawn? ran.device.rules) := by
        rw [Machine.trail_succ_of_ok hwait hstep]
        cases hdraw : ran.device.machine.drawn? ran.device.rules with
        | none => exact List.filterMap_cons_none hdraw
        | some drawn => exact List.filterMap_cons_some hdraw
      rw [hanother, List.append_assoc] at hrest
      rw [hcycles, htrail]
      exact hrest

/-! ## Requests -/

/-- The random numbers that are drawn for a request. -/
def draws (device : Device) (request : Request) : List Drawn :=
  (device.trail request).filterMap (Machine.drawn? device.rules)

theorem drew_tick (device : Device) (delta : Float) :
    Twister.Drew device.machine.random (device.draws (.tick (.ok delta)))
      (device.tick delta).device.machine.random (device.tick delta).log := by
  unfold draws trail
  cases hrunning : device.running with
  | false =>
    rw [tick_of_not_running hrunning]
    exact .nothing rfl
  | true =>
    rw [tick_of_running hrunning]
    have hnone : Twister.Drew device.machine.random [] device.machine.random #[] := .nothing rfl
    let started : Ran :=
      ⟨device.passTimers.withClock (device.frames + 1) (device.elapsed + delta), #[], #[]⟩
    exact @drew_cycles _ _ started hrunning hnone device.config.cyclesPerFrame

theorem trail_step_of_not_inOperation (h : ¬device.InOperation) : device.trail .step = [] := by
  cases hrunning : device.running with
  | false => exact if_neg (by rw [hrunning]; exact Bool.false_ne_true)
  | true =>
    have htrail : device.trail .step = device.machine.trail device.rules 1 := if_pos hrunning
    rw [htrail]
    refine Machine.trail_of_awaitingKey ?_
    by_contra hnot
    exact h ⟨hrunning, Bool.eq_false_iff.2 hnot⟩

theorem drew_step (device : Device) :
    Twister.Drew device.machine.random (device.draws .step) device.step.device.machine.random
      device.step.log := by
  unfold draws
  by_cases hoperation : device.InOperation
  · have hone : cycles 1 ⟨device, #[], #[]⟩ = Ran.another ⟨device, #[], #[]⟩ :=
      cycles_succ_of_inOperation hoperation 0
    have hlog : (cycles 1 ⟨device, #[], #[]⟩).log = device.cycle.log := by
      rw [hone]
      exact Array.empty_append
    have htrail : device.trail .step = device.machine.trail device.rules 1 := if_pos hoperation.1
    have hnone : Twister.Drew device.machine.random [] device.machine.random #[] := .nothing rfl
    have hdrew := @drew_cycles _ _ ⟨device, #[], #[]⟩ hoperation.1 hnone 1
    rw [hlog, hone] at hdrew
    rw [step_of_inOperation hoperation, htrail]
    exact hdrew
  · rw [step_of_not_inOperation hoperation, trail_step_of_not_inOperation hoperation]
    exact .nothing rfl

/-- Only instructions take bytes. -/
theorem Becomes.random_eq {later : Device} {request : Request} (h : device.Becomes request later)
    (hruns : request.runs = false) : later.machine.random = device.machine.random := by
  cases h with
  | ticked | stepped => cases hruns
  | _ => rfl

theorem drew_serve (device : Device) (request : Request) :
    Twister.Drew device.machine.random (device.draws request)
      (device.serve request).device.machine.random (device.serve request).log := by
  match request with
  | .tick (.ok delta) => exact drew_tick device delta
  | .step => exact drew_step device
  | .tick (.error _) | .start | .stop | .reset | .loadRom _ | .loadFont _ _ | .setKey _ _ =>
    rw [(becomes_serve device _).random_eq rfl]
    refine .nothing ?_
    rw [Log.draws, fetches_serve_of_not_runs device rfl]
    rfl

/-! ## Sessions -/

/-- The random numbers that are drawn while some requests are served. -/
def drawsDuring (device : Device) (requests : List Request) : List Drawn :=
  (device.trailDuring requests).filterMap (Machine.drawn? device.rules)

theorem rules_serve (device : Device) (request : Request) :
    (device.serve request).device.rules = device.rules := by
  unfold rules
  rw [(becomes_serve device request).config_eq]

theorem drawsDuring_cons (device : Device) (request : Request) (rest : List Request) :
    device.drawsDuring (request :: rest) =
      device.draws request ++ (device.serve request).device.drawsDuring rest := by
  rw [drawsDuring, drawsDuring, rules_serve, trailDuring, List.filterMap_append]
  rfl

theorem drawsDuring_append (device : Device) (requests later : List Request) :
    device.drawsDuring (requests ++ later) =
      device.drawsDuring requests ++ (device.after requests).drawsDuring later := by
  induction requests generalizing device with
  | nil => rfl
  | cons request rest ih =>
    rw [List.cons_append, drawsDuring_cons, ih, drawsDuring_cons, List.append_assoc, after_cons]

theorem drew_after (device : Device) (requests : List Request) :
    Twister.Drew device.machine.random (device.drawsDuring requests)
      (device.after requests).machine.random (device.logDuring requests) := by
  induction requests generalizing device with
  | nil => exact .nothing rfl
  | cons request rest ih =>
    rw [drawsDuring_cons, after_cons, logDuring_cons]
    exact (drew_serve device request).append (ih _)

/-- The generator of a new device is the one of its seed. -/
theorem random_create {config : Config} {entropy : Int} {created : Device}
    (hcreate : Device.create config entropy = .ok created) :
    created.machine.random = .ofSeed (config.seed.getD entropy) := by
  obtain ⟨machine, hmachine, rfl⟩ := create_eq_ok_iff.1 hcreate
  simp only [Machine.withFont, bind_pure_comp, map_eq_ok_iff] at hmachine
  obtain ⟨memory, -, rfl⟩ := hmachine
  rfl

/-- A new device has all of the stream of its seed before it.  Whatever is requested of it, the
random numbers that its programs are given are the bytes of this stream in order, each with the bits
kept that its instruction asks for, and they are as many as there are instructions for random
numbers on record.  No other step takes a byte, at fault or not, and no request that runs no
instructions.  So two devices of one seed, whatever else each of them executes, are given the same
number in the same place, where the same bits are asked for. -/
theorem random_stream {config : Config} {entropy : Int} {created : Device}
    (hcreate : Device.create config entropy = .ok created) (requests : List Request) :
    let seed := config.seed.getD entropy
    let draws := created.drawsDuring requests
    let device := created.after requests
    (∀ (place : Nat) (drawn : Drawn), draws[place]? = some drawn →
      drawn.value = (Twister.stream seed place &&& drawn.mask).toNat) ∧
    Log.draws (created.logDuring requests) = draws.map Drawn.operands ∧
    device.machine.random = Twister.afterBytes draws.length (.ofSeed seed) ∧
    (∀ request : Request, request.runs = false →
      (device.serve request).device.machine.random = device.machine.random) ∧
    (∀ (rules : Rules) (machine : Machine),
      (∀ x kk, (machine.step rules).value.result ≠ .ok (.random x kk)) →
        (machine.step rules).value.machine.random = machine.random) ∧
    ∀ (otherConfig : Config) (otherEntropy : Int) (other : Device),
      Device.create otherConfig otherEntropy = .ok other →
      otherConfig.seed.getD otherEntropy = seed →
      ∀ (otherRequests : List Request) (place : Nat) (drawn alike : Drawn),
        draws[place]? = some drawn →
        (other.drawsDuring otherRequests)[place]? = some alike →
        drawn.mask = alike.mask → drawn.value = alike.value := by
  intro seed draws device
  obtain ⟨hyields, hleft, hrecord⟩ := drew_after created requests
  rw [random_create hcreate] at hyields hleft
  refine ⟨hyields, hrecord, hleft, fun request hruns => ?_,
    fun rules machine hnot => Machine.random_step_of_not_random hnot, ?_⟩
  · exact (becomes_serve device request).random_eq hruns
  · intro otherConfig otherEntropy other hother hseed otherRequests place drawn alike hdrawn halike
      hmask
    obtain ⟨hotherYields, -, -⟩ := drew_after other otherRequests
    rw [random_create hother, hseed] at hotherYields
    rw [hyields place drawn hdrawn, hotherYields place alike halike, hmask]

/-- The device behind an instruction for a random number. -/
def behindDraw (device : Device) (x : Register) (kk : UInt8) : Device :=
  { device with
    machine := { device.machine.advance with
      cpu := device.machine.advance.cpu.set x (device.machine.random.byte.1 &&& kk).toNat
      random := device.machine.random.byte.2 } }

theorem after_step_of_random {x : Register} {kk : UInt8} (hoperation : device.InOperation)
    (hcan : device.machine.CanFetch) (hi : device.machine.nextInstruction = .random x kk) :
    (device.drawsDuring [.step]).map Drawn.operands = [(x, kk)] ∧
      device.after [.step] = device.behindDraw x kk := by
  have hexec : device.machine.advance.execute device.rules device.machine.nextInstruction =
      .ok (device.behindDraw x kk).machine := by
    rw [hi]
    simp only [Machine.execute]
    rfl
  have hstep := Machine.step_of_execute_eq_ok hcan hexec
  constructor
  · have htrail : device.trail .step = [device.machine] := by
      refine (if_pos hoperation.1).trans ?_
      rw [Machine.trail_succ_of_ok hoperation.2 hstep, Machine.trail_zero]
    rw [drawsDuring_cons, draws, htrail]
    simp only [List.filterMap, Machine.drawn?, hi, Instruction.drawOperands?, Option.map_some]
    rfl
  · have hserved : device.after [.step] = device.step.device := rfl
    rw [hserved, step_of_inOperation hoperation, cycle_of_ok hstep]
    rfl

/-- A program draws a byte.  Another program is rejected, and a third draws the next byte of the
same stream. -/
theorem random_stream_restarted :
    let config : Config := { Config.standard with seed := some 7 }
    let requests : List Request :=
      [.loadRom [0xC3, 0xFF], .start, .step, .loadRom (List.replicate 4000 0),
        .loadRom [0xC4, 0x0F], .start, .step]
    ∃ created, Device.create config 0 = .ok created ∧
      (created.drawsDuring requests).map Drawn.register = [3, 4] ∧
      (created.drawsDuring requests).map Drawn.value =
        [((Twister.stream 7 0 &&& 0xFF).toNat : Int),
          ((Twister.stream 7 1 &&& 0x0F).toNat : Int)] := by
  intro config requests
  let early : List Request := [.loadRom [0xC3, 0xFF], .start]
  let late : List Request := [.loadRom (List.replicate 4000 0), .loadRom [0xC4, 0x0F], .start]
  -- The kernel would be long about the generator, and so no step that draws is evaluated.
  obtain ⟨created, hcreate, hnone, hruns, hcan, hi, hnone', hruns', hcan', hi'⟩ : ∃ created,
      Device.create config 0 = .ok created ∧
      let first := created.after early
      let second := (first.behindDraw 3 0xFF).after late
      created.drawsDuring early = [] ∧ (first.running = true ∧ first.awaitingKey = false) ∧
        first.machine.CanFetch ∧ first.machine.nextInstruction = .random 3 0xFF ∧
        (first.behindDraw 3 0xFF).drawsDuring late = [] ∧
        (second.running = true ∧ second.awaitingKey = false) ∧
        second.machine.CanFetch ∧ second.machine.nextInstruction = .random 4 0x0F :=
    ⟨_, rfl, by decide +kernel⟩
  obtain ⟨hfirst, hbehind⟩ := after_step_of_random hruns hcan hi
  rw [← hbehind] at hnone' hruns' hcan' hi'
  obtain ⟨hsecond, -⟩ := after_step_of_random hruns' hcan' hi'
  have hrecord : (created.drawsDuring requests).map Drawn.operands = [(3, 0xFF), (4, 0x0F)] := by
    have hrequests : requests = early ++ ([.step] ++ (late ++ [.step])) := rfl
    rw [hrequests, drawsDuring_append, drawsDuring_append, drawsDuring_append, hnone, hnone',
      List.nil_append, List.nil_append, List.map_append, hfirst, hsecond]
    rfl
  obtain ⟨hvalues, -⟩ := random_stream hcreate requests
  refine ⟨created, hcreate, ?_⟩
  generalize created.drawsDuring requests = draws at hrecord hvalues ⊢
  have hlength : draws.length = 2 := by
    rw [← List.length_map Drawn.operands, hrecord]
    rfl
  obtain ⟨one, two, rfl⟩ := List.length_eq_two.1 hlength
  simp only [List.map_cons, List.map_nil, List.cons.injEq, and_true, Drawn.operands,
    Prod.mk.injEq] at hrecord
  obtain ⟨⟨hregister, hmask⟩, hregister', hmask'⟩ := hrecord
  have hvalue := hvalues 0 one rfl
  have hvalue' := hvalues 1 two rfl
  rw [hmask] at hvalue
  rw [hmask'] at hvalue'
  simp only [List.map_cons, List.map_nil, hregister, hregister', hvalue, hvalue', true_and]
  rfl

end Device
end Chip8
