import Chip8.Proofs.Device.FontPlace
import Chip8.Proofs.Machine.Drawing
import Chip8.Proofs.Machine.Transfers

/-!
# Printing digits

A program prints a digit in two instructions.  `FX29` points the index at the glyph of the digit,
which it finds by the note that memory keeps of its font, and `DAB5` draws what stands there.  That
this is the glyph follows if the font is still where the note says: since a font was loaded no other
one was, and the program left its bytes alone.

`Device.Later` has the states that a device can come to in the meantime.  They include those within
a frame, which no request ends with, because these are the states in which instructions run.
`Device.digit_prints_glyph` goes on from the memory of any of them.
-/

namespace Chip8

/-- The five rows of the glyph of a digit, from top to bottom. -/
def Font.glyph (font : Font) (digit : Nat) : List UInt8 :=
  (font.glyphs.drop (5 * digit)).take 5

theorem Font.glyph_eq (font : Font) {digit : Nat} (h : digit < 16) :
    font.glyph digit = (List.range 5).map fun r => font.glyphs.getD (5 * digit + r) 0 := by
  have hsize : font.glyphs.length = 80 := font.length_glyphs
  refine List.ext_getElem ?_ fun r hr hr' => ?_
  · simp only [glyph, List.length_take, List.length_drop, List.length_map, List.length_range]
    omega
  · rw [List.length_map, List.length_range] at hr'
    have hplace : 5 * digit + r < font.glyphs.length := by omega
    simp only [glyph, List.getElem_take, List.getElem_drop, List.getElem_map, List.getElem_range,
      List.getD_eq_getElem?_getD, List.getElem?_eq_getElem hplace, Option.getD_some]

/-- All bytes of a font stand at an address and behind it. -/
def Memory.HoldsFont {size : Nat} (memory : Memory size) (font : Font) (offset : Nat) : Prop :=
  ∀ i < 80, memory.byteAt (offset + i) = font.glyphs.getD i 0

theorem Memory.holdsFont_of_loadFont {size : Nat} {memory loaded : Memory size} {font : Font}
    {offset : Int} (h : memory.loadFont offset font = .ok loaded) :
    loaded.HoldsFont font offset.toNat := by
  obtain ⟨hlow, hhigh, rfl⟩ := loadFont_eq_ok_iff.1 h
  have hsize : font.glyphs.length = 80 := font.length_glyphs
  intro i hi
  have haddress : offset.toNat + i < size := by
    simp only [Font.size, Font.glyphSize] at hhigh
    omega
  have hbyte := memory.byteAt_store offset.toNat font.glyphs haddress
  rw [if_pos (by omega), Nat.add_sub_cancel_left] at hbyte
  exact hbyte

/-! ## Two instructions -/

namespace Machine

variable {machine : Machine} {font : Font} {offset : Nat}

theorem runs_pointGlyph (rules : Rules) (machine : Machine) (x : Register) :
    machine.Runs rules (0xF029 + 0x100 * x.val)
      { machine with
        cpu := { machine.cpu with
          index := Font.glyphAddress machine.memory.fontOffset (machine.cpu.get x) } } := by
  have hword : 0xF029 + 0x100 * x.val = (Instruction.pointGlyph x).encode := by
    simp only [Instruction.encode, Instruction.digitByte]
    omega
  rw [Runs, hword, Instruction.decode_encode rfl, execute]

theorem runs_draw_five_iff {rules : Rules} {a b : Register} {next : Machine} :
    machine.Runs rules (0xD005 + 0x100 * a.val + 0x10 * b.val) next ↔
      machine.drawSprite rules a b 5 = .ok next := by
  have hword : 0xD005 + 0x100 * a.val + 0x10 * b.val = (Instruction.draw a b 5).encode := by
    have hfive : (5 : Fin 16).val = 5 := rfl
    simp only [Instruction.encode, Instruction.digitByte, hfive]
    omega
  rw [Runs, hword, Instruction.decode_encode rfl, execute]

/-- The sprite at the place of a glyph is the glyph. -/
theorem spriteAt_glyph (hfont : machine.memory.HoldsFont font offset) {digit : Nat}
    (hdigit : digit < 16) :
    machine.spriteAt (offset + 5 * digit) 5 =
      (font.glyph digit).map fun row => (row.toNat : Int) := by
  rw [font.glyph_eq hdigit, List.map_map, spriteAt]
  refine List.map_congr_left fun r hr => ?_
  have hr' : r < 5 := List.mem_range.1 hr
  have hbyte := hfont (5 * digit + r) (by omega)
  rw [Function.comp_apply, ← hbyte, Nat.add_assoc]

/-- A machine that holds a font where it notes it prints the glyphs of that font. -/
theorem runs_glyph (hplace : machine.memory.fontPlace = ⟨font, offset⟩)
    (hfont : machine.memory.HoldsFont font offset) (hinside : offset + 80 ≤ memorySize)
    (rules : Rules) (x a b : Register) :
    let digit := (machine.cpu.get x % 16).toNat
    let drawn := Screen.draw machine.screen (machine.cpu.get a) (machine.cpu.get b)
      ((font.glyph digit).map fun row => (row.toNat : Int)) rules.dialect.clipsSprites
    let pointed : Cpu := { machine.cpu with index := offset + 5 * digit }
    machine.Runs rules (0xF029 + 0x100 * x.val) { machine with cpu := pointed } ∧
      Runs rules { machine with cpu := pointed } (0xD005 + 0x100 * a.val + 0x10 * b.val)
        { machine with
          cpu := pointed.set .flag (if drawn.collision then 1 else 0)
          screen := drawn.screen } := by
  intro digit drawn pointed
  have hdigit : digit < 16 := by omega
  have hoffset : (machine.memory.fontOffset : Int) = offset := congrArg FontPlace.offset hplace
  have hindex : Font.glyphAddress machine.memory.fontOffset (machine.cpu.get x) =
      offset + 5 * digit := by
    simp only [Font.glyphAddress, Font.glyphSize, hoffset, digit]
    omega
  constructor
  · have hpoint := runs_pointGlyph rules machine x
    rw [hindex] at hpoint
    exact hpoint
  · have hfive : (5 : Fin 16).val = 5 := rfl
    have hpointed : pointed.index = ((offset + 5 * digit : Nat) : Int) := rfl
    have hsprite : ({ machine with cpu := pointed } : Machine).spriteAt (offset + 5 * digit) 5 =
        (font.glyph digit).map fun row => (row.toNat : Int) := spriteAt_glyph hfont hdigit
    have hdraw : ({ machine with cpu := pointed } : Machine).drawSprite rules a b 5 = _ :=
      drawSprite_eq_ok rules a b 5 hpointed (by rw [hfive]; omega)
    rw [hfive, hsprite] at hdraw
    exact runs_draw_five_iff.2 hdraw

end Machine

/-! ## Later states of a device -/

namespace Device

/-- The states that a device can come to without another load of a font.  Those within a frame are
among them: the timers were passed, and some of the frame's instructions ran. -/
inductive Later (loaded : Device) : Device → Prop where
  | now : Later loaded loaded
  | served {device : Device} (h : Later loaded device) {request : Request}
      (hother : request.loadsFont = false) : Later loaded (device.serve request).device
  | begun {device : Device} (h : Later loaded device) (delta : Float) :
      Later loaded (device.passTimers.withClock (device.frames + 1) (device.elapsed + delta))
  | cycled {device : Device} (h : Later loaded device) : Later loaded device.cycle.device

variable {device loaded later : Device}

/-- The note of the font does not change unless a font is loaded. -/
theorem Later.fontPlace_eq (h : loaded.Later later) : later.fontPlace = loaded.fontPlace := by
  induction h with
  | now => rfl
  | served _ hother ih => exact ((becomes_serve _ _).fontPlace_eq hother).trans ih
  | begun _ delta ih => exact ih
  | cycled _ ih => exact (fontPlace_cycle _).trans ih

theorem loadFont_eq_ok_iff {offset : Int} {font : Option Font} :
    device.loadFont offset font = .ok loaded ↔
      ∃ memory, device.machine.memory.loadFont offset (font.getD device.machine.memory.font) =
          .ok memory ∧
        { device with machine := { device.machine with memory } } = loaded := by
  simp only [loadFont, bind_pure_comp, map_eq_ok_iff]

/-- A font can be loaded to the offsets at which it lies within memory. -/
theorem exists_loadFont_iff {offset : Int} {font : Option Font} :
    (∃ loaded, device.loadFont offset font = .ok loaded) ↔ 0 ≤ offset ∧ offset ≤ 4016 := by
  have hsize : Font.size = 80 := rfl
  have hmemory : memorySize = 4096 := rfl
  constructor
  · rintro ⟨loaded, hload⟩
    obtain ⟨memory, hmem, -⟩ := loadFont_eq_ok_iff.1 hload
    obtain ⟨hlow, hhigh, -⟩ := Memory.loadFont_eq_ok_iff.1 hmem
    omega
  · rintro ⟨hlow, hhigh⟩
    exact ⟨_, loadFont_eq_ok_iff.2 ⟨_, Memory.loadFont_eq_ok_iff.2 ⟨hlow, by omega, rfl⟩, rfl⟩⟩

/-- A font is accepted at the offsets from 0 to 4016.  From then on, in every state in which its
bytes are as they were loaded and no other font was loaded, `FX29` and then `DAB5` are carried out
and draw the glyph of VX, of which the low digit counts, at the position in VA and VB.  VF tells of
the collision, and memory stays as it was.  Nothing matters but memory: registers, screen and all
the rest may be as they like, and the dialect too. -/
theorem digit_prints_glyph (device : Device) (font : Option Font) (offset : Int) :
    ((∃ loaded, device.loadFont offset font = .ok loaded) ↔ 0 ≤ offset ∧ offset ≤ 4016) ∧
    ∀ loaded later, device.loadFont offset font = .ok loaded → loaded.Later later →
      (∀ i : Nat, i < 80 → later.machine.memory.byteAt (offset.toNat + i) =
        loaded.machine.memory.byteAt (offset.toNat + i)) →
      ∀ (rules : Rules) (machine : Machine) (x a b : Register),
        machine.memory = later.machine.memory →
        let digit := (machine.cpu.get x % 16).toNat
        let rows := (font.getD device.machine.memory.font).glyph digit
        let drawn := Screen.draw machine.screen (machine.cpu.get a) (machine.cpu.get b)
          (rows.map fun row => (row.toNat : Int)) rules.dialect.clipsSprites
        ∃ pointed printed : Machine,
          machine.Runs rules (0xF029 + 0x100 * x.val) pointed ∧
          pointed.Runs rules (0xD005 + 0x100 * a.val + 0x10 * b.val) printed ∧
          printed.screen = drawn.screen ∧
          printed.cpu.get .flag = (if drawn.collision then 1 else 0) ∧
          printed.memory = machine.memory := by
  refine ⟨exists_loadFont_iff, ?_⟩
  intro loaded later hload hlater hkept rules machine x a b hmemory digit rows drawn
  obtain ⟨memory, hmem, rfl⟩ := loadFont_eq_ok_iff.1 hload
  obtain ⟨hlow, hhigh⟩ := exists_loadFont_iff.1 ⟨_, hload⟩
  have hplace : machine.memory.fontPlace =
      ⟨font.getD device.machine.memory.font, (offset.toNat : Nat)⟩ := by
    rw [hmemory, Int.toNat_of_nonneg hlow]
    exact hlater.fontPlace_eq.trans (Memory.fontPlace_of_loadFont hmem)
  have hfont : machine.memory.HoldsFont (font.getD device.machine.memory.font) offset.toNat := by
    intro i hi
    rw [hmemory, hkept i hi]
    exact Memory.holdsFont_of_loadFont hmem i hi
  have hinside : offset.toNat + 80 ≤ memorySize := by
    have hsize : memorySize = 4096 := rfl
    omega
  obtain ⟨hpoint, hdraw⟩ := Machine.runs_glyph hplace hfont hinside rules x a b
  have hflag := Cpu.get_set { machine.cpu with index := offset.toNat + 5 * digit } .flag .flag
    (if drawn.collision then 1 else 0)
  exact ⟨_, _, hpoint, hdraw, rfl, hflag.trans (if_pos rfl), rfl⟩

/-- A font that was moved to the last offset prints the digit A for the register value 26, in the
midst of a frame, at a corner where the glyph goes on at the opposite edges. -/
theorem digit_prints_glyph_moved_font :
    let row : Fin screenHeight := ⟨0, by decide⟩
    let lastRow : Fin screenHeight := ⟨31, by decide⟩
    let column : Fin screenWidth := ⟨1, by decide⟩
    let lastColumn : Fin screenWidth := ⟨63, by decide⟩
    ∃ created, Device.create .standard 0 = .ok created ∧
      let device := created.after [.loadFont 0x50 (some .vip)]
      ∃ loaded, device.loadFont 4016 none = .ok loaded ∧
        let started := loaded.after [.setKey 5 true, .start]
        let later := started.passTimers.withClock (started.frames + 1) (started.elapsed + 0)
        let cpu := (later.machine.cpu.set 11 26).set .flag 62
        let machine : Machine := { later.machine with cpu }
        loaded.Later later ∧
          (∀ i : Nat, i < 80 → later.machine.memory.byteAt (4016 + i) =
            loaded.machine.memory.byteAt (4016 + i)) ∧
          ∃ pointed printed : Machine,
            machine.Runs ⟨{}, 16⟩ 0xFB29 pointed ∧
            pointed.Runs ⟨{}, 16⟩ 0xDFF5 printed ∧
            printed.screen.cell row column = true ∧
            printed.screen.cell lastRow column = true ∧
            printed.screen.cell lastRow lastColumn = false ∧
            printed.cpu.get .flag = 0 ∧
            printed.memory = loaded.machine.memory := by
  intro row lastRow column lastColumn
  refine ⟨_, rfl, ?_⟩
  intro device
  let font := device.machine.memory.font
  let memory := { device.machine.memory.store 4016 font.glyphs with font, fontOffset := 4016 }
  let loaded : Device := { device with machine := { device.machine with memory } }
  have hload : device.loadFont 4016 none = .ok loaded := rfl
  refine ⟨loaded, hload, ?_⟩
  intro started later cpu machine
  have hstarted : loaded.Later started := .served (.served .now rfl) rfl
  have hlater : loaded.Later later := .begun hstarted 0
  have hkept : ∀ i : Nat, i < 80 → later.machine.memory.byteAt (4016 + i) =
      loaded.machine.memory.byteAt (4016 + i) := fun i _ => rfl
  obtain ⟨-, hprints⟩ := digit_prints_glyph device none 4016
  obtain ⟨pointed, printed, hpoint, hdraw, hscreen, hflag, hmemory⟩ :=
    hprints loaded later hload hlater hkept ⟨{}, 16⟩ machine 11 .flag .flag rfl
  refine ⟨hlater, hkept, pointed, printed, hpoint, hdraw, ?_, ?_, ?_, ?_, hmemory⟩
  · rw [hscreen]
    decide +kernel
  · rw [hscreen]
    decide +kernel
  · rw [hscreen]
    decide +kernel
  · rw [hflag]
    decide +kernel

end Device
end Chip8
