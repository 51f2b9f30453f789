import Chip8.Proofs.Device.Cycle
import Chip8.Proofs.Device.Session
import Chip8.Proofs.Machine.Bounds

/-!
# What holds of every reachable device

`Device.Sound` is the invariant of devices: the machine is within its bounds, the program that was
loaded fits, and a device that a fault halted neither runs nor waits for a key.  Creating a device
establishes it and every request keeps it (`Device.Sound.of_becomes`), whether it is met or refused.

Of the last part the reason lies in the order of things: a fault only comes from an instruction,
and instructions only run on a device that runs and does not wait.
-/

namespace Chip8
namespace Device

/-- What every request keeps. -/
structure Sound (device : Device) : Prop where
  machine : device.machine.Bounded device.config.stackSize
  rom : ∀ size ∈ device.romSize, size ≤ maxRomSize
  halted : device.fault.isSome = true → device.running = false ∧ device.awaitingKey = false

variable {device : Device}

namespace Sound

/-- A device that runs was not halted. -/
theorem fault_eq_none (h : device.Sound) (hrunning : device.running = true) :
    device.fault = none := by
  cases hfault : device.fault with
  | none => rfl
  | some fault =>
    have hstopped := (h.halted (by simp [hfault])).1
    rw [hrunning] at hstopped
    cases hstopped

/-! ## Setting up and loading -/

theorem loadFont_bounded {limit : Nat} {machine : Machine} {memory : Memory memorySize}
    {offset : Int} {font : Font} (h : machine.Bounded limit)
    (hload : machine.memory.loadFont offset font = .ok memory) :
    Machine.Bounded limit { machine with memory } := by
  unfold Memory.loadFont at hload
  split at hload
  next => cases hload
  next hinside =>
    cases hload
    refine ⟨h.cpu, ?_⟩
    dsimp only
    omega

theorem create {config : Config} {entropy : Int}
    (hcreate : Device.create config entropy = .ok device) : device.Sound := by
  obtain ⟨machine, hmachine, rfl⟩ := create_eq_ok_iff.1 hcreate
  simp only [Machine.withFont, bind_pure_comp, map_eq_ok_iff] at hmachine
  obtain ⟨memory, hload, rfl⟩ := hmachine
  have hblank : (Machine.blank (config.seed.getD entropy)).Bounded config.stackSize :=
    ⟨Cpu.Bounded.initial, by simp [Machine.blank, Memory.blank]; decide⟩
  exact ⟨loadFont_bounded hblank hload, by simp, by simp⟩

theorem reset (h : device.Sound) : device.reset.value.Sound := by
  refine ⟨⟨Cpu.Bounded.initial, ?_⟩, by simp [Device.reset], by simp [Device.reset]⟩
  have hoffset :
      (wipedMemory device.machine.memory).fontOffset = device.machine.memory.fontOffset :=
    Memory.fontOffset_store _ _ _
  exact hoffset ▸ h.machine.font

theorem load (h : device.Sound) (rom : Rom) : (device.load rom).value.Sound := by
  have hreset := h.reset
  refine ⟨⟨hreset.machine.cpu, ?_⟩, ?_, hreset.halted⟩
  · have hoffset : (device.load rom).value.machine.memory.fontOffset =
        device.reset.value.machine.memory.fontOffset :=
      Memory.fontOffset_store _ _ _
    exact hoffset ▸ hreset.machine.font
  · intro size hsize
    cases hsize
    exact rom.fits

/-! ## Running -/

theorem cycle (h : device.Sound) (hoperation : device.InOperation) :
    device.cycle.device.Sound := by
  have hmachine : (device.machine.step device.rules).value.machine.Bounded
      device.config.stackSize := h.machine.step rfl
  rcases cycle_cases device with ⟨fault, trace, hwait, hcycle⟩ | ⟨instruction, trace, hcycle⟩
  · rw [hcycle]
    exact ⟨hmachine, h.rom, fun _ => ⟨rfl, hwait.trans hoperation.2⟩⟩
  · rw [hcycle]
    refine ⟨hmachine, h.rom, fun hfault => ?_⟩
    have hnone : device.fault = none := h.fault_eq_none hoperation.1
    simp [hnone] at hfault

theorem tick (h : device.Sound) (delta : Float) : (device.tick delta).device.Sound :=
  tick_induction (motive := Sound) (fun _ hsound => hsound.cycle) delta h
    ⟨⟨h.machine.cpu.tickTimers, h.machine.font⟩, h.rom, h.halted⟩

theorem step (h : device.Sound) : device.step.device.Sound :=
  step_induction (motive := Sound) (fun _ hsound => hsound.cycle) h

/-! ## Sessions -/

/-- A request keeps the invariant, whether it is met or refused. -/
theorem of_becomes {later : Device} {request : Request} (h : device.Sound)
    (hbecomes : device.Becomes request later) : later.Sound := by
  cases hbecomes with
  | startRefused | romRefused | fontRefused | keyRefused | untimedIdle => exact h
  | started hfault => exact ⟨h.machine, h.rom, fun hsome => by simp [hfault] at hsome⟩
  | stopped => exact ⟨h.machine, h.rom, fun hfault => ⟨rfl, (h.halted hfault).2⟩⟩
  | reset => exact h.reset
  | romLoaded => exact h.load _
  | fontLoaded hfont => exact ⟨loadFont_bounded h.machine hfont, h.rom, h.halted⟩
  | keyNoted => exact ⟨⟨h.machine.cpu, h.machine.font⟩, h.rom, h.halted⟩
  | @resumed id key hkey hup hrunning hwait =>
    have hset := h.machine.cpu.set device.machine.cpu.keyRegister (isByte_register key)
    refine ⟨⟨{ hset with }, h.machine.font⟩, h.rom, fun hfault => ?_⟩
    exact ⟨(h.halted hfault).1, rfl⟩
  | ticked delta => exact h.tick delta
  | untimed => exact ⟨h.machine, h.rom, h.halted⟩
  | stepped => exact h.step

end Sound

theorem Reachable.sound (h : device.Reachable) : device.Sound := by
  induction h with
  | created hcreate => exact .create hcreate
  | served _ request ih => exact ih.of_becomes (becomes_serve _ request)

/-! ## What a host can rely on -/

/-- The bounds of what a host can read from a device whose stack was set up for `stackSize`
addresses. -/
structure WithinBounds (stackSize : Nat) (device : Device) : Prop where
  memory : device.machine.memory.toList.length = 4096
  registerCount : device.machine.cpu.registers.toList.length = 16
  registers : ∀ value ∈ device.machine.cpu.registers.toList, 0 ≤ value ∧ value ≤ 255
  index : 0 ≤ device.machine.cpu.index ∧ device.machine.cpu.index ≤ 0xFFFF
  pc : 0 ≤ device.machine.cpu.pc ∧ device.machine.cpu.pc ≤ 0x10FE
  depth : device.machine.cpu.stack.length ≤ stackSize
  returns : ∀ address ∈ device.machine.cpu.stack, 2 ≤ address ∧ address ≤ 0x1000
  delay : 0 ≤ device.machine.cpu.delay ∧ device.machine.cpu.delay ≤ 255
  sound : 0 ≤ device.machine.cpu.sound ∧ device.machine.cpu.sound ≤ 255
  keyRegister : device.machine.cpu.keyRegister.val ≤ 15
  rows : device.machine.screen.toLists.length = 32
  columns : ∀ row ∈ device.machine.screen.toLists, row.length = 64
  fontOffset : device.machine.memory.fontOffset ≤ 4096 - 80
  romSize : ∀ size ∈ device.romSize, size ≤ 3584
  halted : device.fault.isSome = true → device.running = false ∧ device.awaitingKey = false

theorem Sound.withinBounds (h : device.Sound) : device.WithinBounds device.config.stackSize where
  memory := Vector.length_toList
  registerCount := Vector.length_toList
  registers value hmem := by
    obtain ⟨i, hi, rfl⟩ := List.getElem_of_mem hmem
    rw [Vector.length_toList] at hi
    rw [Vector.getElem_toList]
    exact h.machine.cpu.registers ⟨i, hi⟩
  index := h.machine.cpu.index
  pc := h.machine.cpu.pc
  depth := h.machine.cpu.depth
  returns := h.machine.cpu.returns
  delay := h.machine.cpu.delay
  sound := h.machine.cpu.sound
  keyRegister := by omega
  rows := by simp [Grid.toLists, screenHeight]
  columns row hmem := by
    obtain ⟨cells, -, rfl⟩ := List.mem_map.1 hmem
    exact Vector.length_toList
  fontOffset := by
    have hfont : device.machine.memory.fontOffset + 80 ≤ 4096 := h.machine.font
    omega
  romSize := h.rom
  halted := h.halted

/-- Whatever requests a host makes of a new device, in whatever order, and whether they are met or
refused, the device stays within its bounds. -/
theorem session_withinBounds {config : Config} {entropy : Int} {created : Device}
    (hcreate : Device.create config entropy = .ok created) (requests : List Request) :
    (created.after requests).WithinBounds config.stackSize := by
  have hreachable := (Reachable.created hcreate).after requests
  have hconfig : (created.after requests).config = config := by
    obtain ⟨machine, -, rfl⟩ := create_eq_ok_iff.1 hcreate
    exact config_after _ requests
  rw [← hconfig]
  exact hreachable.sound.withinBounds

/-- A program whose first instruction waits for a key, with a font that is refused and a frame
that cannot be timed. -/
theorem session_withinBounds_interrupted :
    ∃ created, Device.create .standard 0 = .ok created ∧
      (created.after
        [.loadRom [0xF3, 0x0A], .loadFont 4096 none, .start, .tick (.error (.other "no time")),
          .step, .setKey 16 true, .setKey 7 true, .tick (.ok 0)]).WithinBounds 16 := by
  have hcreate : ∃ created, Device.create .standard 0 = .ok created := ⟨_, rfl⟩
  obtain ⟨created, hcreate⟩ := hcreate
  exact ⟨created, hcreate, session_withinBounds hcreate _⟩

end Device
end Chip8
