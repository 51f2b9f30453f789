import Chip8.Proofs.Device.Session
import Chip8.Proofs.Memory.Image

/-!
# The font in memory

Memory notes which font was loaded last and where.  Only the loading of a font makes a new note:
programs change bytes and leave the note alone, and so do all requests of a host but those for a
font that are met.

`Device.lastFont` reads off a session which font was loaded last with success, by the outcomes of
the requests and without a look at memory.  It is what memory notes (`Device.fontPlace_session`).
-/

namespace Chip8

/-- A font and the address that it is put at. -/
structure FontPlace where
  font : Font
  offset : Int
  deriving DecidableEq

namespace FontPlace

/-- The font that was loaded last by the time that a request came to its outcome, if it was
`current` before. -/
def afterOutcome (current : FontPlace) (request : Request)
    (outcome : Except Error (Array Message)) : FontPlace :=
  match request, outcome with
  | .loadFont offset font, .ok _ => ⟨font.getD current.font, offset⟩
  | _, _ => current

end FontPlace

/-- The font that memory notes as loaded. -/
def Memory.fontPlace {size : Nat} (memory : Memory size) : FontPlace :=
  ⟨memory.font, memory.fontOffset⟩

namespace Memory

variable {size : Nat} {memory : Memory size}

theorem fontPlace_store (memory : Memory size) (start : Nat) (data : List UInt8) :
    (memory.store start data).fontPlace = memory.fontPlace := by
  rw [fontPlace, font_store, fontOffset_store]
  rfl

theorem fontPlace_of_loadFont {offset : Int} {font : Font} {loaded : Memory size}
    (h : memory.loadFont offset font = .ok loaded) : loaded.fontPlace = ⟨font, offset⟩ := by
  obtain ⟨hlow, -, rfl⟩ := loadFont_eq_ok_iff.1 h
  simp only [fontPlace, Int.toNat_of_nonneg hlow]

end Memory

/-! ## Programs -/

namespace Machine

theorem fontPlace_step (rules : Rules) (machine : Machine) :
    (machine.step rules).value.machine.memory.fontPlace = machine.memory.fontPlace := by
  rcases step_footprint rules machine with ⟨fault, pc, hstep⟩ | ⟨next, -, hstep, hprint⟩
  · rw [hstep]
  · rw [hstep, Memory.fontPlace, hprint.font, hprint.fontOffset]
    rfl

end Machine

/-! ## Hosts -/

namespace Device

variable {device : Device}

/-- The font that memory notes as loaded. -/
def fontPlace (device : Device) : FontPlace :=
  device.machine.memory.fontPlace

theorem fontPlace_cycle (device : Device) : device.cycle.device.fontPlace = device.fontPlace := by
  have hstep := Machine.fontPlace_step device.rules device.machine
  rcases cycle_cases device with ⟨fault, trace, -, hcycle⟩ | ⟨instruction, trace, hcycle⟩
  · rw [hcycle]
    exact hstep
  · rw [hcycle]
    exact hstep

theorem fontPlace_tick (device : Device) (delta : Float) :
    (device.tick delta).device.fontPlace = device.fontPlace :=
  tick_induction (motive := fun other => other.fontPlace = device.fontPlace)
    (fun other hplace _ => (fontPlace_cycle other).trans hplace) delta rfl rfl

theorem fontPlace_step (device : Device) : device.step.device.fontPlace = device.fontPlace :=
  step_induction (motive := fun other => other.fontPlace = device.fontPlace)
    (fun other hplace _ => (fontPlace_cycle other).trans hplace) rfl

theorem fontPlace_reset (device : Device) : device.reset.value.fontPlace = device.fontPlace :=
  Memory.fontPlace_store _ _ _

theorem fontPlace_load (device : Device) (rom : Rom) :
    (device.load rom).value.fontPlace = device.fontPlace :=
  (Memory.fontPlace_store _ _ _).trans (fontPlace_reset device)

/-- A request that is not for a font leaves the note of the font as it was. -/
theorem Becomes.fontPlace_eq {later : Device} {request : Request} (h : device.Becomes request later)
    (hother : request.loadsFont = false) : later.fontPlace = device.fontPlace := by
  cases h with
  | fontRefused | fontLoaded => cases hother
  | reset => exact fontPlace_reset device
  | romLoaded => exact fontPlace_load device _
  | ticked delta => exact fontPlace_tick device delta
  | stepped => exact fontPlace_step device
  | _ => rfl

theorem fontPlace_serve (device : Device) (request : Request) :
    (device.serve request).device.fontPlace =
      device.fontPlace.afterOutcome request (device.serve request).outcome := by
  cases request with
  | loadFont offset font =>
    rw [serve_loadFont]
    cases hload : device.machine.memory.loadFont offset
        (font.getD device.machine.memory.font) with
    | error reason => rfl
    | ok loaded => exact Memory.fontPlace_of_loadFont hload
  | _ => exact (becomes_serve device _).fontPlace_eq rfl

/-- The font that was loaded last with success, and where, by the time that some requests were
served, if it was `current` before. -/
def lastFont (device : Device) (current : FontPlace) : List Request → FontPlace
  | [] => current
  | request :: rest =>
    let served := device.serve request
    served.device.lastFont (current.afterOutcome request served.outcome) rest

theorem fontPlace_after (device : Device) (requests : List Request) :
    (device.after requests).fontPlace = device.lastFont device.fontPlace requests := by
  induction requests generalizing device with
  | nil => rfl
  | cons request rest ih => rw [after_cons, ih, fontPlace_serve, lastFont]

/-- A new device has the font of its configuration. -/
theorem fontPlace_create {config : Config} {entropy : Int} {created : Device}
    (hcreate : Device.create config entropy = .ok created) :
    created.fontPlace = ⟨config.font, config.fontOffset⟩ := by
  obtain ⟨machine, hmachine, rfl⟩ := create_eq_ok_iff.1 hcreate
  simp only [Machine.withFont, bind_pure_comp, map_eq_ok_iff] at hmachine
  obtain ⟨memory, hload, rfl⟩ := hmachine
  exact Memory.fontPlace_of_loadFont hload

/-- Memory notes the font that was loaded last with success, at the latest when the device was
created. -/
theorem fontPlace_session {config : Config} {entropy : Int} {created : Device}
    (hcreate : Device.create config entropy = .ok created) (requests : List Request) :
    (created.after requests).fontPlace =
      created.lastFont ⟨config.font, config.fontOffset⟩ requests := by
  rw [fontPlace_after, fontPlace_create hcreate]

end Device
end Chip8
