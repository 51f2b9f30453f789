import Chip8.Proofs.Device.Bounds
import Chip8.Proofs.Device.FontPlace

/-!
# Resetting and loading

A reset puts the font back that was loaded last.  The load does not fail, since the font was loaded
to the same place before (`Device.loadFont_clear`), and what it makes of the wiped memory is what it
makes of the memory of a new device.  So a reset device is a new one but for its random bytes and
its configuration (`Device.reset_eq_new`): of all that ran before, nothing is left.

A program is checked for its size before anything is touched.  One that is refused leaves the device
as it was, and one that passes is accepted by memory, too; then the whole state of the device is
determined by the program, the font, the configuration and the random bytes
(`Device.loadRom_all_or_nothing`).
-/

namespace Chip8
namespace Device

variable {device : Device}

/-! ## The memory of a reset device -/

/-- On a wiped memory the font that was loaded last is loaded again. -/
theorem loadFont_clear {memory : Memory memorySize}
    (hfont : memory.fontOffset + Font.size ≤ memorySize) :
    memory.clear.loadFont memory.fontOffset memory.font = .ok (wipedMemory memory) := by
  refine Memory.loadFont_eq_ok_iff.2 ⟨Int.natCast_nonneg _, by omega, ?_⟩
  rw [Int.toNat_natCast]
  have hnote : (wipedMemory memory).font = memory.font := Memory.font_store _ _ _
  have hoffset : (wipedMemory memory).fontOffset = memory.fontOffset :=
    Memory.fontOffset_store _ _ _
  have hfields : wipedMemory memory =
      ⟨(wipedMemory memory).bytes, (wipedMemory memory).font, (wipedMemory memory).fontOffset⟩ :=
    rfl
  rw [hnote, hoffset] at hfields
  exact hfields.symm

theorem byteAt_wipedMemory (memory : Memory memorySize) {address : Nat}
    (haddress : address < memorySize) :
    (wipedMemory memory).byteAt address =
      if memory.fontOffset ≤ address ∧ address < memory.fontOffset + Font.size then
        memory.font.glyphs.getD (address - memory.fontOffset) 0
      else 0 := by
  rw [wipedMemory, Memory.byteAt_store _ _ _ haddress, Font.length_glyphs, Memory.byteAt_clear]

/-- What a font makes of the memory of a new device is what a reset leaves in memory. -/
theorem withFont_eq_ok {memory : Memory memorySize}
    (hfont : memory.fontOffset + Font.size ≤ memorySize) (seed : Int) :
    Machine.withFont seed memory.font memory.fontOffset =
      .ok { Machine.blank seed with memory := wipedMemory memory } := by
  have hbytes : (Machine.blank seed).memory.bytes = memory.clear.bytes := rfl
  have hload : (Machine.blank seed).memory.loadFont memory.fontOffset memory.font =
      .ok (wipedMemory memory) := by
    rw [Memory.loadFont_congr hbytes]
    exact loadFont_clear hfont
  simp only [Machine.withFont, bind_pure_comp, map_eq_ok_iff]
  exact ⟨_, hload, rfl⟩

/-! ## Reset -/

/-- Whatever was requested of a device, a reset does not fail, for the font is not refused where it
was loaded before.  It leaves the state of a new device that is configured like this one, with the
font that was loaded last where it was loaded.  Only the configuration and the random bytes are
those of the device.  Memory is zero but for that font. -/
theorem reset_eq_new {config : Config} {entropy : Int} {created : Device}
    (hcreate : Device.create config entropy = .ok created) (requests : List Request)
    (otherEntropy : Int) :
    let device := created.after requests
    let memory := device.machine.memory
    let last := created.lastFont ⟨config.font, config.fontOffset⟩ requests
    let served := device.serve .reset
    ∃ fresh,
      Device.create { device.config with font := last.font, fontOffset := last.offset }
          otherEntropy = .ok fresh ∧
      served.outcome = .ok #[] ∧
      memory.clear.loadFont memory.fontOffset memory.font = .ok served.device.machine.memory ∧
      served.device =
        { fresh with
          config := device.config
          machine := { fresh.machine with random := device.machine.random } } ∧
      ∀ address : Nat, address < 4096 →
        served.device.machine.memory.byteAt address =
          if last.offset ≤ address ∧ address < last.offset + 80 then
            last.font.glyphs.getD (address - last.offset).toNat 0
          else 0 := by
  intro device memory last served
  have hsound : device.Sound := ((Reachable.created hcreate).after requests).sound
  have hfont : memory.fontOffset + Font.size ≤ memorySize := hsound.machine.font
  have hlast : last = ⟨memory.font, memory.fontOffset⟩ := (fontPlace_session hcreate requests).symm
  rw [hlast]
  have hcreated : ∀ seed, Machine.withFont seed memory.font memory.fontOffset =
      .ok { Machine.blank seed with memory := wipedMemory memory } := withFont_eq_ok hfont
  refine ⟨_, create_eq_ok_iff.2 ⟨_, hcreated _, rfl⟩, rfl, loadFont_clear hfont, rfl, ?_⟩
  intro address haddress
  have hbyte : served.device.machine.memory.byteAt address =
      if memory.fontOffset ≤ address ∧ address < memory.fontOffset + 80 then
        memory.font.glyphs.getD (address - memory.fontOffset) 0
      else 0 := byteAt_wipedMemory memory haddress
  have hinside : (memory.fontOffset : Int) ≤ address ∧ (address : Int) < memory.fontOffset + 80 ↔
      memory.fontOffset ≤ address ∧ address < memory.fontOffset + 80 := by omega
  have hglyph : ((address : Int) - memory.fontOffset).toNat = address - memory.fontOffset := by
    omega
  simp only [hbyte, hinside, hglyph]

/-- A font is moved and chosen, and another one refused, before a program waits for a key. -/
theorem reset_eq_new_moved_font :
    let requests : List Request :=
      [.loadFont 0x08 (some .vip), .loadFont 0x58 none, .loadFont 4017 (some .fishie),
        .loadRom [0xF3, 0x0A], .setKey 5 true, .start, .step]
    ∃ created, Device.create .standard 0 = .ok created ∧
      let device := created.after requests
      device.runState = .waiting ∧
        ∃ fresh, Device.create { device.config with font := .vip, fontOffset := 0x58 } 0 =
            .ok fresh ∧
          (device.serve .reset).device =
            { fresh with
              config := device.config
              machine := { fresh.machine with random := device.machine.random } } ∧
          (device.serve .reset).device.machine.memory.byteAt 0x08 = 0 := by
  intro requests
  obtain ⟨created, hcreate, hwaiting, hlast⟩ : ∃ created,
      Device.create .standard 0 = .ok created ∧
      (created.after requests).runState = .waiting ∧
      created.lastFont ⟨Config.standard.font, Config.standard.fontOffset⟩ requests =
        ⟨.vip, 0x58⟩ := by
    refine ⟨_, rfl, ?_, ?_⟩
    · decide +kernel
    · decide +kernel
  obtain ⟨fresh, hfresh, -, -, hreset, hbytes⟩ := reset_eq_new hcreate requests 0
  have hbyte := hbytes 0x08 (by decide)
  rw [hlast] at hfresh hbyte
  rw [if_neg (by decide)] at hbyte
  exact ⟨created, hcreate, hwaiting, fresh, hfresh, hreset, hbyte⟩

/-! ## Loading a program -/

theorem wipedMemory_congr {first second : Memory memorySize}
    (h : first.fontPlace = second.fontPlace) : wipedMemory first = wipedMemory second := by
  simp only [Memory.fontPlace, FontPlace.mk.injEq, Int.natCast_inj] at h
  obtain ⟨hfont, hoffset⟩ := h
  simp only [wipedMemory, Memory.clear, hfont, hoffset]

theorem serve_loadRom_of_fits (device : Device) (rom : Rom) :
    device.serve (.loadRom rom.bytes) = .ofLogged (device.load rom) := by
  have hrom : Rom.ofBytes rom.bytes = .ok rom := dif_pos rom.fits
  rw [serve_loadRom, hrom]

theorem serve_loadRom_of_too_large {data : List UInt8} (h : maxRomSize < data.length) :
    device.serve (.loadRom data) =
      ⟨device, .error (.romTooLarge data.length maxRomSize), #[]⟩ := by
  have hrom : Rom.ofBytes data = .error (.romTooLarge data.length maxRomSize) :=
    dif_neg (Nat.not_le_of_lt h)
  rw [serve_loadRom, hrom]

/-- The device with a program in it. -/
theorem value_load (device : Device) (rom : Rom) :
    (device.load rom).value =
      { config := device.config
        machine := {
          cpu := .initial
          memory := (wipedMemory device.machine.memory).store programStart rom.bytes
          screen := Screen.dark
          keypad := .released
          random := device.machine.random }
        running := false
        fault := none
        romSize := some rom.size
        frames := 0
        elapsed := 0 } := rfl

/-- A program that is too large is refused and leaves the device as it was.  No other is refused,
neither for its size nor because the font would not fit: it stands in memory over the font, which is
where it was, with zero everywhere else, and all the rest is as in a new device.  So the device that
is loaded does not show what was before, but for its configuration, its font and its random
bytes. -/
theorem loadRom_all_or_nothing (h : device.Reachable) (data : List UInt8) :
    let memory := device.machine.memory
    let served := device.serve (.loadRom data)
    (3584 < data.length →
      served = ⟨device, .error (.romTooLarge data.length 3584), #[]⟩) ∧
    (data.length ≤ 3584 →
      served.outcome = .ok #[] ∧
      memory.clear.loadFont memory.fontOffset memory.font =
        .ok device.reset.value.machine.memory ∧
      (∃ copied, device.reset.value.machine.memory.loadRom data = .ok copied ∧
        copied.value = served.device.machine.memory) ∧
      (∀ address : Nat, address < 4096 →
        served.device.machine.memory.byteAt address =
          if 0x200 ≤ address ∧ address < 0x200 + data.length then data.getD (address - 0x200) 0
          else if memory.fontOffset ≤ address ∧ address < memory.fontOffset + 80 then
            memory.font.glyphs.getD (address - memory.fontOffset) 0
          else 0) ∧
      served.device.fontPlace = device.fontPlace ∧
      served.device =
        { config := device.config
          machine := {
            cpu := .initial
            memory := served.device.machine.memory
            screen := Screen.dark
            keypad := .released
            random := device.machine.random }
          running := false
          fault := none
          romSize := some data.length
          frames := 0
          elapsed := 0 } ∧
      ∀ other : Device, other.config = device.config → other.fontPlace = device.fontPlace →
        other.machine.random = device.machine.random →
        (other.serve (.loadRom data)).device = served.device) := by
  intro memory served
  refine ⟨fun hlarge => serve_loadRom_of_too_large hlarge, fun hfits => ?_⟩
  have hserved (other : Device) :
      other.serve (.loadRom data) = .ofLogged (other.load ⟨data, hfits⟩) :=
    serve_loadRom_of_fits other ⟨data, hfits⟩
  have hloaded : served = .ofLogged (device.load ⟨data, hfits⟩) := hserved device
  have hfont : memory.fontOffset + Font.size ≤ memorySize := h.sound.machine.font
  rw [hloaded]
  refine ⟨rfl, loadFont_clear hfont, ⟨_, loadRom_eq_ok _ ⟨data, hfits⟩, rfl⟩, ?_,
    fontPlace_load device _, rfl, ?_⟩
  · intro address haddress
    have hbyte : ((wipedMemory memory).store programStart data).byteAt address = _ :=
      Memory.byteAt_store _ _ _ haddress
    rw [byteAt_wipedMemory memory haddress] at hbyte
    exact hbyte
  · intro other hconfig hplace hrandom
    have hwiped : wipedMemory other.machine.memory = wipedMemory device.machine.memory :=
      wipedMemory_congr hplace
    rw [hserved other]
    simp only [Served.ofLogged, value_load, hconfig, hwiped, hrandom]

/-- A program over the middle of a font, after one that is a byte too large. -/
theorem loadRom_all_or_nothing_over_font :
    ∃ created, Device.create .standard 0 = .ok created ∧
      let device := created.after [.loadFont 0x1F8 (some .vip), .setKey 5 true, .start]
      let loaded := (device.serve (.loadRom [0x12, 0x00])).device
      device.Reachable ∧ device.running = true ∧
        (device.serve (.loadRom (List.replicate 3585 0))).device = device ∧
        loaded.running = false ∧ loaded.romSize = some 2 ∧
        loaded.machine.memory.byteAt 0x1F8 = 0xF0 ∧
        loaded.machine.memory.byteAt 0x200 = 0x12 ∧
        loaded.machine.memory.byteAt 0x203 = 0x10 := by
  obtain ⟨created, hcreate, hrunning, hplace⟩ : ∃ created,
      Device.create .standard 0 = .ok created ∧
      (created.after [.loadFont 0x1F8 (some .vip), .setKey 5 true, .start]).running = true ∧
      (created.after [.loadFont 0x1F8 (some .vip), .setKey 5 true, .start]).fontPlace =
        ⟨.vip, 0x1F8⟩ := by
    refine ⟨_, rfl, ?_, ?_⟩
    · decide +kernel
    · decide +kernel
  refine ⟨created, hcreate, ?_⟩
  intro device loaded
  have hreachable : device.Reachable := (Reachable.created hcreate).after _
  obtain ⟨hrefused, -⟩ := loadRom_all_or_nothing hreachable (List.replicate 3585 0)
  obtain ⟨-, hloaded⟩ := loadRom_all_or_nothing hreachable [0x12, 0x00]
  obtain ⟨-, -, -, hbytes, -, hstate, -⟩ := hloaded (by decide)
  have hfont : device.machine.memory.font = .vip := congrArg FontPlace.font hplace
  have hoffset : device.machine.memory.fontOffset = 0x1F8 :=
    Int.natCast_inj.1 (congrArg FontPlace.offset hplace)
  rw [hfont, hoffset] at hbytes
  refine ⟨hreachable, hrunning, ?_, congrArg Device.running hstate,
    congrArg Device.romSize hstate, hbytes 0x1F8 (by decide), hbytes 0x200 (by decide),
    hbytes 0x203 (by decide)⟩
  rw [hrefused (by rw [List.length_replicate]; decide)]

end Device
end Chip8
