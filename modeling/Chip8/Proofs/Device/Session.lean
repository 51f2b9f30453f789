import Chip8.Proofs.Device.AllOrNothing
import Chip8.Proofs.Device.Cycle

/-!
# Sessions with a device

A host makes requests of a device, one after the other and in any order.  A `Request` is one of
them with its arguments, `Device.serve` is what comes of it, and `Device.after` is the device after
a list of requests.  Refused requests count as well: they leave a device like any other, and that it
is the one they found is proved from their steps.

`Device.Becomes` says once what a request can make of a device.  What holds of every request follows
from it by cases, without opening the operations again.

A device is `Reachable` if some host can have it: it was created under some configuration, and
requests were made of it since.  What `Device.serve` keeps therefore holds of every reachable
device.
-/

namespace Chip8

/-- A request that a host can make of a device. -/
inductive Request where
  | start
  | stop
  | reset
  | loadRom (data : List UInt8)
  | loadFont (offset : Int) (font : Option Font)
  | setKey (id : Int) (pressed : Bool)
  /-- A frame with the seconds that it took, or the reason why there is no number for them. -/
  | tick (delta : Except Error Float)
  | step

namespace Request

/-- Whether the request leaves the program where it is, in memory and at its instruction. -/
def keepsProgram : Request → Bool
  | reset | loadRom _ => false
  | _ => true

/-- Whether instructions may run for the request. -/
def runs : Request → Bool
  | tick (.ok _) | step => true
  | _ => false

/-- Whether the request is for a font. -/
def loadsFont : Request → Bool
  | loadFont _ _ => true
  | _ => false

end Request

/-- What comes of a request: the device, the messages or the reason for refusing it, and the
log. -/
structure Served where
  device : Device
  outcome : Except Error (Array Message)
  log : Array Log.Entry

namespace Served

/-- A request that instructions were run for. -/
def ofRan (ran : Device.Ran) : Served :=
  ⟨ran.device, .ok ran.messages, ran.log⟩

/-- A request that has no messages. -/
def ofLogged (done : Logged Device) : Served :=
  ⟨done.value, .ok #[], done.trace⟩

/-- A request that may be refused, which leaves the device as far as it got. -/
def ofAttempt (device : Device) (x : Attempt Error Device Unit) : Served :=
  match x.on device with
  | .ok () done => ofLogged done
  | .error reason reached => ⟨reached.value, .error reason, reached.trace⟩

theorem ofAttempt_whole (device : Device) (f : Device → Except Error (Logged Device)) :
    ofAttempt device (.whole f) =
      match f device with
      | .ok done => ofLogged done
      | .error reason => ⟨device, .error reason, #[]⟩ := by
  unfold ofAttempt
  cases h : f device with
  | ok done => rw [Attempt.on_whole_of_ok h]
  | error reason => rw [Attempt.on_whole_of_error h]; rfl

end Served

namespace Device

/-- Serves a request. -/
def serve (device : Device) : Request → Served
  | .start => .ofLogged device.start
  | .stop => .ofLogged (.silent device.stop)
  | .reset => .ofLogged device.reset
  | .loadRom data => .ofAttempt device (attemptLoadRom data)
  | .loadFont offset font => .ofAttempt device (attemptLoadFont offset font)
  | .setKey id pressed => .ofAttempt device (attemptReportKey id pressed)
  | .tick (.ok delta) => .ofRan (device.tick delta)
  | .tick (.error reason) =>
    match device.tickUntimed with
    | .ok ran => .ofRan ran
    | .error counted => ⟨counted, .error reason, #[]⟩
  | .step => .ofRan device.step

section

variable (device : Device)

theorem serve_loadRom (data : List UInt8) :
    device.serve (.loadRom data) =
      match Rom.ofBytes data with
      | .ok rom => .ofLogged (device.load rom)
      | .error reason => ⟨device, .error reason, #[]⟩ := by
  simp only [serve, attemptLoadRom_eq_whole, Served.ofAttempt_whole, loadRom]
  cases Rom.ofBytes data <;> rfl

theorem serve_loadFont (offset : Int) (font : Option Font) :
    device.serve (.loadFont offset font) =
      match device.machine.memory.loadFont offset (font.getD device.machine.memory.font) with
      | .ok memory =>
        .ofLogged (.silent { device with machine := { device.machine with memory } })
      | .error reason => ⟨device, .error reason, #[]⟩ := by
  simp only [serve, attemptLoadFont_eq_whole, Served.ofAttempt_whole, loadFont]
  cases device.machine.memory.loadFont offset (font.getD device.machine.memory.font) <;> rfl

theorem serve_setKey (id : Int) (pressed : Bool) :
    device.serve (.setKey id pressed) =
      match Key.ofInt? id with
      | some key => .ofLogged (device.setKey key pressed)
      | none => ⟨device, .error (.invalidKey id), #[]⟩ := by
  simp only [serve, attemptReportKey_eq_whole, Served.ofAttempt_whole, reportKey]
  cases Key.ofInt? id <;> rfl

end

/-! ## What becomes of the device -/

theorem create_eq_ok_iff {config : Config} {entropy : Int} {device : Device} :
    Device.create config entropy = .ok device ↔
      ∃ machine, Machine.withFont (config.seed.getD entropy) config.font config.fontOffset =
          .ok machine ∧
        { config, machine, running := false, fault := none, romSize := none, frames := 0,
          elapsed := 0 } = device := by
  simp only [Device.create, bind_pure_comp, map_eq_ok_iff]

section

variable (device : Device)

theorem value_start :
    device.start.value =
      if device.fault.isSome then device else { device with running := true } := by
  unfold start
  cases device.fault with
  | some fault => rfl
  | none => cases device.romSize <;> rfl

/-- The device after a press of a key ended the wait. -/
def resumedBy (key : Key) : Device :=
  { device with
    machine := { device.machine with
      keypad := device.machine.keypad.set key true
      cpu := { device.machine.cpu with
        registers := device.machine.cpu.registers.set device.machine.cpu.keyRegister key.val
        awaitingKey := false } } }

theorem value_setKey (key : Key) (pressed : Bool) :
    (device.setKey key pressed).value =
      if pressed && !device.machine.keypad.isDown key && device.running && device.awaitingKey then
        device.resumedBy key
      else
        { device with
          machine := { device.machine with keypad := device.machine.keypad.set key pressed } } := by
  unfold setKey awaitingKey
  dsimp only
  split
  next hresolved =>
    simp only [Bool.and_eq_true] at hresolved
    obtain ⟨⟨⟨rfl, -⟩, -⟩, hwait⟩ := hresolved
    simp [Machine.resolveKey, hwait, resumedBy, Cpu.set]
  next => rfl

end

/-- What a request can make of a device. -/
inductive Becomes (device : Device) : Request → Device → Prop where
  | startRefused (hfault : device.fault.isSome = true) : Becomes device .start device
  | started (hfault : device.fault = none) : Becomes device .start { device with running := true }
  | stopped : Becomes device .stop device.stop
  | reset : Becomes device .reset device.reset.value
  | romRefused {data : List UInt8} {reason : Error} (hrom : Rom.ofBytes data = .error reason) :
      Becomes device (.loadRom data) device
  | romLoaded {data : List UInt8} {rom : Rom} (hrom : Rom.ofBytes data = .ok rom) :
      Becomes device (.loadRom data) (device.load rom).value
  | fontRefused {offset : Int} {font : Option Font} {reason : Error}
      (hfont : device.machine.memory.loadFont offset (font.getD device.machine.memory.font) =
        .error reason) : Becomes device (.loadFont offset font) device
  | fontLoaded {offset : Int} {font : Option Font} {memory : Memory memorySize}
      (hfont : device.machine.memory.loadFont offset (font.getD device.machine.memory.font) =
        .ok memory) :
      Becomes device (.loadFont offset font)
        { device with machine := { device.machine with memory } }
  | keyRefused {id : Int} {pressed : Bool} (hkey : Key.ofInt? id = none) :
      Becomes device (.setKey id pressed) device
  | keyNoted {id : Int} {key : Key} {pressed : Bool} (hkey : Key.ofInt? id = some key)
      (hstale : ¬(pressed && !device.machine.keypad.isDown key && device.running &&
        device.awaitingKey) = true) :
      Becomes device (.setKey id pressed)
        { device with
          machine := { device.machine with keypad := device.machine.keypad.set key pressed } }
  | resumed {id : Int} {key : Key} (hkey : Key.ofInt? id = some key)
      (hup : device.machine.keypad.isDown key = false) (hrunning : device.running = true)
      (hwait : device.awaitingKey = true) :
      Becomes device (.setKey id true) (device.resumedBy key)
  | ticked (delta : Float) : Becomes device (.tick (.ok delta)) (device.tick delta).device
  | untimed (reason : Error) (hrunning : device.running = true) :
      Becomes device (.tick (.error reason)) device.countFrame
  | untimedIdle (reason : Error) (hstopped : device.running = false) :
      Becomes device (.tick (.error reason)) device
  | stepped : Becomes device .step device.step.device

theorem becomes_serve (device : Device) (request : Request) :
    device.Becomes request (device.serve request).device := by
  cases request with
  | start =>
    simp only [serve, Served.ofLogged, value_start]
    split
    next hfault => exact .startRefused hfault
    next hfault => exact .started (by simpa using hfault)
  | stop => exact .stopped
  | reset => exact .reset
  | loadRom data =>
    rw [serve_loadRom]
    cases hrom : Rom.ofBytes data with
    | error reason => exact .romRefused hrom
    | ok rom => exact .romLoaded hrom
  | loadFont offset font =>
    rw [serve_loadFont]
    cases hfont : device.machine.memory.loadFont offset
        (font.getD device.machine.memory.font) with
    | error reason => exact .fontRefused hfont
    | ok memory => exact .fontLoaded hfont
  | setKey id pressed =>
    rw [serve_setKey]
    cases hkey : Key.ofInt? id with
    | none => exact .keyRefused hkey
    | some key =>
      simp only [Served.ofLogged, value_setKey]
      split
      next hfresh =>
        simp only [Bool.and_eq_true, Bool.not_eq_true'] at hfresh
        obtain ⟨⟨⟨rfl, hup⟩, hrunning⟩, hwait⟩ := hfresh
        exact .resumed hkey hup hrunning hwait
      next hstale => exact .keyNoted hkey hstale
  | tick delta =>
    cases delta with
    | ok delta => exact .ticked delta
    | error reason =>
      simp only [serve, tickUntimed]
      cases hrunning : device.running with
      | true => exact .untimed reason hrunning
      | false => exact .untimedIdle reason hrunning
  | step => exact .stepped

/-- No request changes the configuration. -/
theorem Becomes.config_eq {device later : Device} {request : Request}
    (h : device.Becomes request later) : later.config = device.config := by
  cases h with
  | ticked delta => exact config_tick device delta
  | stepped => exact config_step device
  | _ => rfl

/-! ## Lists of requests -/

/-- The device after some requests. -/
def after (device : Device) (requests : List Request) : Device :=
  requests.foldl (fun device request => (device.serve request).device) device

/-- What goes on record while some requests are served. -/
def logDuring (device : Device) : List Request → Array Log.Entry
  | [] => #[]
  | request :: rest =>
    let served := device.serve request
    served.log ++ served.device.logDuring rest

section

variable (device : Device) (request : Request) (requests later : List Request)

@[simp] theorem after_nil : device.after [] = device := rfl

@[simp] theorem after_cons :
    device.after (request :: requests) = (device.serve request).device.after requests := rfl

@[simp] theorem after_append :
    device.after (requests ++ later) = (device.after requests).after later :=
  List.foldl_append

theorem config_after : (device.after requests).config = device.config := by
  induction requests generalizing device with
  | nil => rfl
  | cons request rest ih => exact (ih _).trans (becomes_serve device request).config_eq

@[simp] theorem logDuring_nil : device.logDuring [] = #[] := rfl

@[simp] theorem logDuring_cons :
    device.logDuring (request :: requests) =
      (device.serve request).log ++ (device.serve request).device.logDuring requests := rfl

end

/-! ## Reachable devices -/

/-- The devices that a host can have. -/
inductive Reachable : Device → Prop where
  | created {config : Config} {entropy : Int} {device : Device}
      (h : Device.create config entropy = .ok device) : Reachable device
  | served {device : Device} (h : Reachable device) (request : Request) :
      Reachable (device.serve request).device

namespace Reachable

theorem after {device : Device} (h : device.Reachable) (requests : List Request) :
    (device.after requests).Reachable := by
  induction requests generalizing device with
  | nil => exact h
  | cons request rest ih => exact ih (h.served request)

end Reachable
end Device
end Chip8
