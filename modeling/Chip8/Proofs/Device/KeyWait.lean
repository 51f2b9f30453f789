import Chip8.Proofs.Device.Fetches

/-!
# Waiting for a key

`FX0A` suspends the program until a key is pressed.  Not everything that a host reports of a key
counts: a press is fresh if the device runs and the key was up (`Device.freshPress?`).  A session
without a fresh press is `Quiet`, and leaves everything that the program can tell as it was
(`Device.Quiet.programState_after`); a fresh press puts the key into its register and ends the wait
(`Device.device_serve_of_freshPress`).

A key that is down is no more pressed by reporting it again.  It stays down until it is released
(`Device.isDown_after`), however the device is stopped and started in between, and up to then no
report of it is fresh.  This is why a key that was down when the wait began, or that went down on a
stopped device, does not end the wait, and why a press ends no second one.
-/

namespace Chip8

/-- Whether the request reports that a key was released. -/
def Request.releases (key : Key) : Request → Bool
  | .setKey id false => Key.ofInt? id == some key
  | _ => false

namespace Device

/-! ## Fresh presses -/

/-- The key that a request reports as pressed, if the device runs and the key was up. -/
def freshPress? (device : Device) : Request → Option Key
  | .setKey id true =>
    (Key.ofInt? id).filter fun key => device.running && !device.machine.keypad.isDown key
  | _ => none

/-- The requests keep the program, and none of them is a fresh press when its turn comes. -/
def Quiet (device : Device) : List Request → Prop
  | [] => True
  | request :: rest =>
    request.keepsProgram = true ∧ device.freshPress? request = none ∧
      (device.serve request).device.Quiet rest

instance decidableQuiet : (device : Device) → (requests : List Request) →
    Decidable (device.Quiet requests)
  | _, [] => .isTrue trivial
  | device, request :: rest =>
    have := decidableQuiet (device.serve request).device rest
    inferInstanceAs (Decidable (_ ∧ _ ∧ _))

variable {device : Device} {request : Request} {key : Key}

theorem freshPress?_eq_some_iff :
    device.freshPress? request = some key ↔
      ∃ id, request = .setKey id true ∧ Key.ofInt? id = some key ∧ device.running = true ∧
        device.machine.keypad.isDown key = false := by
  constructor
  · intro h
    unfold freshPress? at h
    split at h
    next id =>
      obtain ⟨hkey, hfresh⟩ := Option.filter_eq_some_iff.1 h
      simp only [Bool.and_eq_true, Bool.not_eq_true'] at hfresh
      exact ⟨id, rfl, hkey, hfresh⟩
    next => cases h
  · rintro ⟨id, rfl, hkey, hrunning, hup⟩
    simp [freshPress?, hkey, hrunning, hup]

theorem Quiet.append_iff {first second : List Request} :
    device.Quiet (first ++ second) ↔ device.Quiet first ∧ (device.after first).Quiet second := by
  induction first generalizing device with
  | nil => simp [Quiet]
  | cons request rest ih => simp only [List.cons_append, Quiet, ih, after_cons, and_assoc]

/-! ## What a wait leaves alone -/

/-- What a program can tell of a device, but for the timers, the keypad and memory. -/
structure ProgramState where
  registers : Registers
  index : Int
  pc : Int
  stack : List Int
  awaitingKey : Bool
  keyRegister : Register
  screen : Screen screenWidth screenHeight
  random : Twister

def programState (device : Device) : ProgramState where
  registers := device.machine.cpu.registers
  index := device.machine.cpu.index
  pc := device.machine.cpu.pc
  stack := device.machine.cpu.stack
  awaitingKey := device.awaitingKey
  keyRegister := device.machine.cpu.keyRegister
  screen := device.machine.screen
  random := device.machine.random

theorem not_inOperation_of_awaitingKey (h : device.awaitingKey = true) : ¬device.InOperation := by
  intro hoperation
  rw [hoperation.2] at h
  cases h

theorem tick_of_awaitingKey (h : device.awaitingKey = true) (delta : Float) :
    (device.tick delta).device =
      if device.running then
        device.passTimers.withClock (device.frames + 1) (device.elapsed + delta)
      else device := by
  cases hrunning : device.running with
  | false => rw [tick_of_not_running hrunning]; rfl
  | true =>
    have hwaits : (device.passTimers.withClock (device.frames + 1)
        (device.elapsed + delta)).awaitingKey = true := h
    rw [tick_of_running hrunning]
    dsimp only
    rw [cycles_of_not_inOperation (not_inOperation_of_awaitingKey hwaits)]
    rfl

/-- Of all that a program can tell, a request that is no fresh press changes nothing while the
program waits, and memory only if it is for a font. -/
theorem serve_of_awaitingKey (hwait : device.awaitingKey = true)
    (hkeeps : request.keepsProgram = true) (hstale : device.freshPress? request = none) :
    (device.serve request).device.programState = device.programState ∧
      (request.loadsFont = false →
        (device.serve request).device.machine.memory = device.machine.memory) := by
  have hbecomes := becomes_serve device request
  generalize (device.serve request).device = later at hbecomes ⊢
  cases hbecomes with
  | reset | romRefused | romLoaded => cases hkeeps
  | fontLoaded => exact ⟨rfl, fun hother => absurd hother Bool.false_ne_true.symm⟩
  | resumed hkey hup hrunning =>
    rw [freshPress?_eq_some_iff.2 ⟨_, rfl, hkey, hrunning, hup⟩] at hstale
    cases hstale
  | ticked delta =>
    rw [tick_of_awaitingKey hwait]
    split <;> exact ⟨rfl, fun _ => rfl⟩
  | stepped =>
    rw [step_of_not_inOperation (not_inOperation_of_awaitingKey hwait)]
    exact ⟨rfl, fun _ => rfl⟩
  | _ => exact ⟨rfl, fun _ => rfl⟩

namespace Quiet

variable {requests : List Request}

theorem programState_after (hwait : device.awaitingKey = true) (hquiet : device.Quiet requests) :
    (device.after requests).programState = device.programState := by
  induction requests generalizing device with
  | nil => rfl
  | cons request rest ih =>
    obtain ⟨hkeeps, hstale, hrest⟩ := hquiet
    have hstate := (serve_of_awaitingKey hwait hkeeps hstale).1
    have hwait' : (device.serve request).device.awaitingKey = true :=
      (congrArg ProgramState.awaitingKey hstate).trans hwait
    exact (ih hwait' hrest).trans hstate

theorem awaitingKey_after (hwait : device.awaitingKey = true) (hquiet : device.Quiet requests) :
    (device.after requests).awaitingKey = true :=
  (congrArg ProgramState.awaitingKey (hquiet.programState_after hwait)).trans hwait

end Quiet

/-- What requests for fonts make of memory depends on memory alone. -/
theorem memory_after_fonts {first second : Device} {requests : List Request}
    (hfonts : ∀ request ∈ requests, request.loadsFont = true)
    (h : first.machine.memory = second.machine.memory) :
    (first.after requests).machine.memory = (second.after requests).machine.memory := by
  induction requests generalizing first second with
  | nil => exact h
  | cons request rest ih =>
    have hrest := fun other hmem => hfonts other (List.mem_cons_of_mem request hmem)
    refine ih hrest ?_
    have hfont := hfonts request List.mem_cons_self
    cases request with
    | loadFont offset font =>
      simp only [serve_loadFont, h]
      cases second.machine.memory.loadFont offset (font.getD second.machine.memory.font) with
      | error reason => exact h
      | ok memory => rfl
    | _ => cases hfont

/-- While the program waits, memory holds what the fonts alone would have made of it. -/
theorem Quiet.memory_after {requests : List Request} (hwait : device.awaitingKey = true)
    (hquiet : device.Quiet requests) :
    (device.after requests).machine.memory =
      (device.after (requests.filter Request.loadsFont)).machine.memory := by
  induction requests generalizing device with
  | nil => rfl
  | cons request rest ih =>
    obtain ⟨hkeeps, hstale, hrest⟩ := hquiet
    obtain ⟨hstate, hmemory⟩ := serve_of_awaitingKey hwait hkeeps hstale
    have hwait' : (device.serve request).device.awaitingKey = true :=
      (congrArg ProgramState.awaitingKey hstate).trans hwait
    rw [after_cons, ih hwait' hrest]
    cases hfont : request.loadsFont with
    | true => rw [List.filter_cons_of_pos hfont, after_cons]
    | false =>
      rw [List.filter_cons_of_neg (by simp [hfont])]
      exact memory_after_fonts (fun other hmem => (List.mem_filter.1 hmem).2) (hmemory hfont)

/-! ## What a fresh press does -/

theorem device_serve_of_freshPress (hwait : device.awaitingKey = true)
    (hpress : device.freshPress? request = some key) :
    (device.serve request).device = device.resumedBy key := by
  obtain ⟨id, rfl, hkey, hrunning, hup⟩ := freshPress?_eq_some_iff.1 hpress
  simp only [serve_setKey, hkey, Served.ofLogged, value_setKey]
  rw [if_pos (by simp [hup, hrunning, hwait])]

/-- Of the requests that keep the program only a fresh press ends a wait. -/
theorem awaitingKey_serve_eq_false_iff (hwait : device.awaitingKey = true)
    (hkeeps : request.keepsProgram = true) :
    (device.serve request).device.awaitingKey = false ↔
      ∃ key, device.freshPress? request = some key := by
  cases hpress : device.freshPress? request with
  | none =>
    have hstate := (serve_of_awaitingKey hwait hkeeps hpress).1
    have hwait' : (device.serve request).device.awaitingKey = true :=
      (congrArg ProgramState.awaitingKey hstate).trans hwait
    simp [hwait']
  | some key =>
    rw [device_serve_of_freshPress hwait hpress]
    exact ⟨fun _ => ⟨key, rfl⟩, fun _ => rfl⟩

/-! ## Keys that are down -/

/-- Until the key is released, no report of it is a fresh press. -/
def Spent (device : Device) (key : Key) : Prop :=
  ∀ later : List Request,
    (∀ request ∈ later, request.keepsProgram = true ∧ request.releases key = false) →
    ∀ id, Key.ofInt? id = some key → (device.after later).freshPress? (.setKey id true) = none

theorem isDown_serve (hkeeps : request.keepsProgram = true) (hheld : request.releases key = false)
    (hdown : device.machine.keypad.isDown key = true) :
    (device.serve request).device.machine.keypad.isDown key = true := by
  have hbecomes := becomes_serve device request
  generalize (device.serve request).device = later at hbecomes ⊢
  cases hbecomes with
  | reset | romRefused | romLoaded => cases hkeeps
  | @keyNoted id other pressed hkey hstale =>
    rw [Keypad.isDown_set]
    split
    next hsame =>
      subst hsame
      cases pressed with
      | true => rfl
      | false => simp [Request.releases, hkey] at hheld
    next => exact hdown
  | @resumed id other hkey hup hrunning hwait =>
    rw [resumedBy, Keypad.isDown_set]
    split
    next => rfl
    next => exact hdown
  | ticked delta => rw [keypad_tick, hdown]
  | stepped => rw [keypad_step, hdown]
  | _ => exact hdown

/-- A key that is down stays down until it is released. -/
theorem isDown_after {requests : List Request}
    (hheld : ∀ request ∈ requests, request.keepsProgram = true ∧ request.releases key = false)
    (hdown : device.machine.keypad.isDown key = true) :
    (device.after requests).machine.keypad.isDown key = true := by
  induction requests generalizing device with
  | nil => exact hdown
  | cons request rest ih =>
    obtain ⟨hkeeps, hrelease⟩ := hheld request List.mem_cons_self
    exact ih (fun other hmem => hheld other (List.mem_cons_of_mem request hmem))
      (isDown_serve hkeeps hrelease hdown)

theorem isDown_press {id : Int} (hkey : Key.ofInt? id = some key) :
    (device.serve (.setKey id true)).device.machine.keypad.isDown key = true := by
  simp only [serve_setKey, hkey, Served.ofLogged, value_setKey]
  split <;> simp [resumedBy]

theorem spent_of_isDown (hdown : device.machine.keypad.isDown key = true) : device.Spent key := by
  intro later hheld id hkey
  have hstill := isDown_after hheld hdown
  simp [freshPress?, hkey, hstill]

/-! ## The wait -/

/-- A device that waits stands behind the instruction that waits, which was run last.  As long as no
press is fresh, the program's state stays as it is and memory changes by fonts alone; and a fresh
press is the only request that ends the wait.  It puts its key into the register and changes nothing
else of the program's state, which goes on where it stands.  No key that is down, since before the
wait or since it was pressed during it, is pressed afresh before its release. -/
theorem wait_until_freshPress {config : Config} {entropy : Int} {created : Device}
    (hcreate : Device.create config entropy = .ok created) (history requests : List Request)
    (hwait : (created.after history).awaitingKey = true)
    (hquiet : (created.after history).Quiet requests) :
    let device := created.after history
    let waiting := device.after requests
    (Log.fetches (created.logDuring history)).getLast? =
        some (device.machine.cpu.pc - 2, .awaitKey device.machine.cpu.keyRegister) ∧
      (∀ prior, prior <+: requests →
        (device.after prior).programState = device.programState ∧
        (device.after prior).machine.memory =
          (device.after (prior.filter Request.loadsFont)).machine.memory ∧
        ∀ key, (device.after prior).machine.keypad.isDown key = true →
          (device.after prior).Spent key) ∧
      (∀ request, request.keepsProgram = true →
        ((waiting.serve request).device.awaitingKey = false ↔
          ∃ key, waiting.freshPress? request = some key)) ∧
      (∀ press key, waiting.freshPress? press = some key →
        (waiting.serve press).device = waiting.resumedBy key ∧
        (device.machine.CanFetch →
          Log.fetches ((waiting.resumedBy key).serve .step).log =
            [(device.machine.cpu.pc, waiting.machine.nextInstruction)]) ∧
        ∀ later, (∀ request ∈ later, request.keepsProgram = true) →
          ∀ fetch ∈ (Log.fetches ((waiting.resumedBy key).logDuring later)).head?,
            fetch.1 = device.machine.cpu.pc) ∧
      (∀ id key, Key.ofInt? id = some key →
        (waiting.serve (.setKey id true)).device.Spent key) := by
  intro device waiting
  have hwaiting : waiting.awaitingKey = true := hquiet.awaitingKey_after hwait
  have hpc : waiting.machine.cpu.pc = device.machine.cpu.pc :=
    congrArg ProgramState.pc (hquiet.programState_after hwait)
  refine ⟨waitOnRecord_session hcreate history hwait, ?_, ?_, ?_, ?_⟩
  · rintro prior ⟨rest, rfl⟩
    have hprior := (Quiet.append_iff.1 hquiet).1
    exact ⟨hprior.programState_after hwait, hprior.memory_after hwait, fun key => spent_of_isDown⟩
  · intro request hkeeps
    exact awaitingKey_serve_eq_false_iff hwaiting hkeeps
  · intro press key hpress
    refine ⟨device_serve_of_freshPress hwaiting hpress, fun hcan => ?_, fun later hkeep fetch => ?_⟩
    · obtain ⟨id, -, -, hrunning, -⟩ := freshPress?_eq_some_iff.1 hpress
      rw [← hpc]
      have hcan' : (waiting.resumedBy key).machine.CanFetch := by
        unfold Machine.CanFetch at hcan ⊢
        rw [← hpc] at hcan
        exact hcan
      exact fetches_serve_step ⟨hrunning, rfl⟩ hcan'
    · rw [← hpc]
      exact head?_fetches_logDuring hkeep fetch
  · intro id key hkey
    exact spent_of_isDown (isDown_press hkey)

/-- A program waits while a key is held that was down when the wait began, another one is pressed
on the stopped device, and the font moves. -/
theorem wait_until_freshPress_held :
    ∃ created, Device.create .standard 0 = .ok created ∧
      let device := created.after [.loadRom [0xF3, 0x0A], .setKey 5 true, .start, .step]
      let requests : List Request :=
        [.setKey 5 true, .setKey 9 false, .stop, .setKey 7 true, .start, .setKey 7 true,
          .loadFont 0x100 none, .tick (.ok 0), .step]
      device.awaitingKey = true ∧ device.Quiet requests ∧
        (device.after requests).programState = device.programState ∧
        (device.after requests).freshPress? (.setKey 2 true) = some 2 ∧
        ((device.after requests).serve (.setKey 2 true)).device =
          (device.after requests).resumedBy 2 := by
  refine ⟨_, rfl, ?_⟩
  intro device requests
  have hwait : device.awaitingKey = true := by decide +kernel
  have hquiet : device.Quiet requests := by decide +kernel
  have hpress : (device.after requests).freshPress? (.setKey 2 true) = some 2 := by decide +kernel
  obtain ⟨-, hkept, -, hended, -⟩ :=
    @wait_until_freshPress .standard 0 _ rfl _ requests hwait hquiet
  exact ⟨hwait, hquiet, (hkept requests (List.prefix_refl requests)).1, hpress,
    (hended _ 2 hpress).1⟩

end Device
end Chip8
