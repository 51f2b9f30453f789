import Chip8.Proofs.Device.Reset

/-!
# A halted device

A fault halts a device, and a halted device is started again by nothing but a reset or another
program.  Of the other requests a start is refused, and a frame or a step finds the device stopped
(`Device.serve_of_halted`).  What is left is what needs no running device: keys are noted, and fonts
are loaded.  So whatever is requested of a halted device, it differs from what it was by its keypad
and its memory, and each of them is what the requests for it alone would have made of it
(`Device.halted_stays_frozen`).
-/

namespace Chip8

theorem Rom.length_le_of_ofBytes_eq_ok {data : List UInt8} {rom : Rom}
    (h : Rom.ofBytes data = .ok rom) : data.length ≤ maxRomSize := by
  unfold Rom.ofBytes at h
  split at h
  next hfits => exact hfits
  next => cases h

/-- Whether a request puts a halted device back to where it can be started. -/
def Request.revives : Request → Bool
  | reset => true
  | loadRom data => data.length ≤ maxRomSize
  | _ => false

/-- The keys that are down after a request that is noted and does nothing else. -/
def Keypad.noting (keypad : Keypad) : Request → Keypad
  | .setKey id pressed =>
    match Key.ofInt? id with
    | some key => keypad.set key pressed
    | none => keypad
  | _ => keypad

/-- Memory after the font of a request was loaded, if the request is for one and is not refused. -/
def Memory.takingFont (memory : Memory memorySize) : Request → Memory memorySize
  | .loadFont offset font =>
    match memory.loadFont offset (font.getD memory.font) with
    | .ok loaded => loaded
    | .error _ => memory
  | _ => memory

namespace Device

variable {device : Device} {fault : Fault} {request : Request} {requests : List Request}

/-- The device with other keys down and another memory. -/
def withSurface (device : Device) (keypad : Keypad) (memory : Memory memorySize) : Device :=
  { device with machine := { device.machine with keypad, memory } }

/-! ## Nothing moves -/

theorem serve_tick_of_stopped (hstopped : device.running = false) (delta : Except Error Float) :
    device.serve (.tick delta) = ⟨device, .ok #[], #[]⟩ := by
  cases delta with
  | ok delta => rw [serve, tick_of_not_running hstopped, Served.ofRan]
  | error reason =>
    simp only [serve, tickUntimed, hstopped]
    rfl

theorem serve_step_of_stopped (hstopped : device.running = false) :
    device.serve .step = ⟨device, .ok #[], #[]⟩ := by
  rw [serve, step, if_pos (by simp [hstopped]), Served.ofRan]

/-- Of a request that does not revive it, a halted device shows only its keys and its fonts. -/
theorem serve_of_halted (hstopped : device.running = false) (hfault : device.fault = some fault)
    (hidle : request.revives = false) :
    (device.serve request).device =
      device.withSurface (device.machine.keypad.noting request)
        (device.machine.memory.takingFont request) := by
  have hbecomes := becomes_serve device request
  generalize (device.serve request).device = later at hbecomes ⊢
  cases hbecomes with
  | started hnone => simp [hfault] at hnone
  | stopped =>
    rw [stop, ← hstopped]
    rfl
  | reset => cases hidle
  | romLoaded hrom => exact absurd (Rom.length_le_of_ofBytes_eq_ok hrom) (of_decide_eq_false hidle)
  | fontRefused hfont | fontLoaded hfont =>
    simp only [withSurface, Keypad.noting, Memory.takingFont, hfont]
  | keyRefused hkey | keyNoted hkey =>
    simp only [withSurface, Keypad.noting, Memory.takingFont, hkey]
  | resumed hkey hup hrunning =>
    rw [hstopped] at hrunning
    cases hrunning
  | ticked delta => exact congrArg Served.device (serve_tick_of_stopped hstopped (.ok delta))
  | untimed reason hrunning =>
    rw [hstopped] at hrunning
    cases hrunning
  | stepped => exact congrArg Served.device (serve_step_of_stopped hstopped)
  | _ => rfl

/-- What is requested of a halted device one after the other adds up in its keys and its memory. -/
theorem after_of_halted (hstopped : device.running = false) (hfault : device.fault = some fault)
    (hidle : ∀ request ∈ requests, request.revives = false) :
    device.after requests =
      device.withSurface (requests.foldl Keypad.noting device.machine.keypad)
        (requests.foldl Memory.takingFont device.machine.memory) := by
  induction requests generalizing device with
  | nil => rfl
  | cons request rest ih =>
    obtain ⟨hfirst, hrest⟩ := List.forall_mem_cons.1 hidle
    have hserved := serve_of_halted hstopped hfault hfirst
    have hstopped' : (device.serve request).device.running = false := by
      rw [hserved]
      exact hstopped
    have hfault' : (device.serve request).device.fault = some fault := by
      rw [hserved]
      exact hfault
    rw [after_cons, ih hstopped' hfault' hrest, hserved]
    rfl

/-! ## The way back -/

/-- A start is not refused to a device that no fault halted. -/
theorem runState_serve_start (hfault : device.fault = none) (hwait : device.awaitingKey = false) :
    (device.serve .start).device.runState = .running := by
  have hstarted : (device.serve .start).device = { device with running := true } := by
    rw [serve, Served.ofLogged, value_start, hfault]
    rfl
  have hwait' : ({ device with running := true } : Device).awaitingKey = false := hwait
  rw [hstarted, runState, hwait']
  rfl

/-- A request that revives is not refused.  It leaves a device without a fault, which a start then
makes run. -/
theorem serve_of_revives (hrevives : request.revives = true) :
    (device.serve request).outcome = .ok #[] ∧
      (device.serve request).device.fault = none ∧
      ((device.serve request).device.serve .start).device.runState = .running := by
  cases request with
  | reset => exact ⟨rfl, rfl, runState_serve_start rfl rfl⟩
  | loadRom data =>
    have hfits : data.length ≤ maxRomSize := of_decide_eq_true hrevives
    rw [serve_loadRom_of_fits device ⟨data, hfits⟩]
    exact ⟨rfl, rfl, runState_serve_start rfl rfl⟩
  | _ => cases hrevives

/-- Whatever else is requested of a device that a fault halted, it does not run, and its fault
stays.  Frames and steps have nothing to tell.  Keys are noted and fonts are loaded, and all the
rest is as it was.  A reset or a program that fits takes the fault away, and a start then makes the
device run. -/
theorem halted_stays_frozen (h : device.Reachable) (hfault : device.fault = some fault)
    (requests : List Request) (hidle : ∀ request ∈ requests, request.revives = false) :
    let later := device.after requests
    later =
        { device with
          machine := { device.machine with
            keypad := requests.foldl Keypad.noting device.machine.keypad
            memory := requests.foldl Memory.takingFont device.machine.memory } } ∧
      later.running = false ∧
      later.fault = some fault ∧
      (∀ delta, later.serve (.tick delta) = ⟨later, .ok #[], #[]⟩) ∧
      later.serve .step = ⟨later, .ok #[], #[]⟩ ∧
      ∀ request, request.revives = true →
        let revived := (later.serve request).device
        (later.serve request).outcome = .ok #[] ∧
          revived.fault = none ∧
          (revived.serve .start).device.runState = .running := by
  intro later
  obtain ⟨hstopped, -⟩ := h.sound.halted (by rw [hfault]; rfl)
  have hlater : later = device.withSurface _ _ := after_of_halted hstopped hfault hidle
  have hstill : later.running = false := by
    rw [hlater]
    exact hstopped
  refine ⟨hlater, hstill, ?_, fun delta => serve_tick_of_stopped hstill delta,
    serve_step_of_stopped hstill, fun request hrevives => serve_of_revives hrevives⟩
  rw [hlater]
  exact hfault

/-- A program jumps to the last byte of memory, where no instruction can be fetched. -/
theorem halted_stays_frozen_outside_memory :
    ∃ created, Device.create .standard 0 = .ok created ∧
      let device := created.after
        [.loadRom [0x1F, 0xFF], .setKey 3 true, .start, .tick (.ok 0)]
      let requests : List Request :=
        [.start, .tick (.ok 0), .step, .setKey 5 true, .loadFont 0x100 (some .vip),
          .loadFont 5000 none, .setKey 3 false, .setKey 16 true, .loadRom (List.replicate 3585 0),
          .stop, .start, .tick (.error (.other "no time"))]
      device.Reachable ∧ device.fault = some ⟨.outOfRange 4096, some 0xFFF⟩ ∧
        (∀ request ∈ requests, request.revives = false) ∧
        (device.after requests).running = false ∧
        (device.after requests).fault = some ⟨.outOfRange 4096, some 0xFFF⟩ ∧
        (device.after requests).machine.keypad = Keypad.released.set 5 true ∧
        (device.after requests).machine.memory.font = .vip ∧
        (((device.after requests).serve .reset).device.serve .start).device.runState =
          .running := by
  refine ⟨_, rfl, ?_⟩
  intro device requests
  have hreachable : device.Reachable := (@Reachable.created .standard 0 _ rfl).after _
  have hfault : device.fault = some ⟨.outOfRange 4096, some 0xFFF⟩ := by decide +kernel
  have hidle : ∀ request ∈ requests, request.revives = false := by decide +kernel
  obtain ⟨hlater, hstopped, hstill, -, -, hrevive⟩ :=
    halted_stays_frozen hreachable hfault requests hidle
  refine ⟨hreachable, hfault, hidle, hstopped, hstill, ?_, ?_, (hrevive .reset rfl).2.2⟩
  · rw [hlater]
    decide +kernel
  · rw [hlater]
    decide +kernel

end Device
end Chip8
