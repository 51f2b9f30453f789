import Chip8.Machine.Execute
import Chip8.Proofs.Memory.Image
import Chip8.Proofs.Screen.Drawing

/-!
# The instruction that draws

`DXYN` takes the rows of its sprite from memory, from the index on, and its position from two
registers.  VF may be one of them: the position is read before VF is set.  The index is a 16-bit
field, so that it is an address, which is called `start` here.

`Machine.draw_flips_sprite` says which pixels the instruction flips, in terms of the bits in memory,
and that VF tells whether some pixel was turned off.  Nothing else of the machine changes.
-/

namespace Chip8
namespace Machine

variable {machine : Machine} {start : Nat}

/-- The rows of the sprite of `n` rows at an address. -/
def spriteAt (machine : Machine) (start n : Nat) : List Int :=
  (List.range n).map fun r => ((machine.memory.byteAt (start + r)).toNat : Int)

theorem getElem?_spriteAt_eq_some_iff {n r : Nat} {row : Int} :
    (machine.spriteAt start n)[r]? = some row ↔
      r < n ∧ ((machine.memory.byteAt (start + r)).toNat : Int) = row := by
  unfold spriteAt
  rw [List.getElem?_map]
  by_cases h : r < n
  · simp [h]
  · simp [h]

/-- A sprite that lies within memory is drawn. -/
theorem drawSprite_eq_ok (rules : Rules) (x y : Register) (n : Fin 16)
    (hindex : machine.cpu.index = start) (hinside : start + n.val ≤ memorySize) :
    let drawn := Screen.draw machine.screen (machine.cpu.get x) (machine.cpu.get y)
      (machine.spriteAt start n) rules.dialect.clipsSprites
    machine.drawSprite rules x y n =
      .ok { machine with
        cpu := machine.cpu.set .flag (Alu.flagOf drawn.collision)
        screen := drawn.screen } := by
  intro drawn
  have hrows := machine.memory.readBlock_eq_ok hinside
  simp only [drawSprite, bind_pure_comp, map_eq_ok_iff]
  refine ⟨_, by rw [hindex]; exact hrows, ?_⟩
  simp only [List.map_map]
  rfl

/-- `DXYN` with its sprite within memory flips just the pixels that lie under a set bit of the
sprite, at the opposite edge if it goes on there, or not at all if it is cut off.  VF tells whether
some pixel was lit before and is dark after; everything else stays as it was. -/
theorem draw_flips_sprite (rules : Rules) (x y : Register) (n : Fin 16)
    (hindex : machine.cpu.index = start) (hinside : start + n.val ≤ memorySize) :
    let left := machine.cpu.get x % 64
    let top := machine.cpu.get y % 32
    ∃ (screen : Screen screenWidth screenHeight) (collision : Bool),
      machine.execute rules (.draw x y n) =
        .ok { machine with
          cpu := machine.cpu.set .flag (if collision then 1 else 0)
          screen := screen } ∧
      (∀ (v : Fin screenHeight) (u : Fin screenWidth),
        screen.cell v u ≠ machine.screen.cell v u ↔
          ∃ r c : Nat, r < n.val ∧ c < 8 ∧
            (machine.memory.byteAt (start + r)).toNat.testBit (7 - c) = true ∧
            (u.val : Int) = (left + c) % 64 ∧ (v.val : Int) = (top + r) % 32 ∧
            (rules.dialect.clipsSprites = true → left + c < 64 ∧ top + r < 32)) ∧
      (collision = true ↔ ∃ (v : Fin screenHeight) (u : Fin screenWidth),
        machine.screen.cell v u = true ∧ screen.cell v u = false) := by
  intro left top
  have hwidth : Sprite.width ≤ screenWidth := by decide
  have hheight : (machine.spriteAt start n).length ≤ screenHeight := by
    rw [spriteAt, List.length_map, List.length_range]
    exact Nat.le_trans n.isLt.le (by decide)
  refine ⟨_, _, drawSprite_eq_ok rules x y n hindex hinside, fun v u => ?_,
    Screen.collision_draw_iff_turned_off hwidth hheight⟩
  rw [Screen.cell_draw_ne_iff hwidth hheight]
  constructor
  · rintro ⟨r, c, row, hrow, hc, hlit, hu, hv, hclip⟩
    obtain ⟨hr, rfl⟩ := getElem?_spriteAt_eq_some_iff.1 hrow
    rw [Sprite.litIn, Bits.bit_natCast] at hlit
    exact ⟨r, c, hr, hc, hlit, hu, hv, hclip⟩
  · rintro ⟨r, c, hr, hc, hlit, hu, hv, hclip⟩
    rw [← Bits.bit_natCast] at hlit
    exact ⟨r, c, _, getElem?_spriteAt_eq_some_iff.2 ⟨hr, rfl⟩, hc, hlit, hu, hv, hclip⟩

/-- A sprite whose corner is given twice by VF goes on at the opposite edges, where it meets a pixel
that is lit. -/
theorem draw_flips_sprite_at_corner :
    let row : Fin screenHeight := ⟨0, by decide⟩
    let column : Fin screenWidth := ⟨1, by decide⟩
    let machine : Machine :=
      { cpu := { Cpu.initial.set .flag 62 with index := 0x300 }
        memory := Memory.blank.store 0x300 [0x80, 0xFF, 0x3C]
        screen := Screen.dark.set row column true
        keypad := .released
        random := ⟨Vector.replicate 624 0, 0⟩ }
    machine.cpu.index = (0x300 : Nat) ∧ 0x300 + (3 : Fin 16).val ≤ memorySize ∧
      ∃ screen : Screen screenWidth screenHeight,
        machine.execute ⟨{}, 16⟩ (.draw .flag .flag 3) =
          .ok { machine with cpu := machine.cpu.set .flag 1, screen := screen } ∧
        screen.cell row column = false := by
  intro row column machine
  have hindex : machine.cpu.index = (0x300 : Nat) := rfl
  have hinside : 0x300 + (3 : Fin 16).val ≤ memorySize := by decide
  obtain ⟨screen, collision, hexec, hflips, hcollision⟩ :=
    draw_flips_sprite ⟨{}, 16⟩ .flag .flag 3 hindex hinside
  have hlit : machine.screen.cell row column = true := by decide +kernel
  have hbit : (machine.memory.byteAt (0x300 + 2)).toNat.testBit (7 - 3) = true := by decide +kernel
  have hleft : machine.cpu.get .flag = 62 := by decide
  have hflipped : screen.cell row column ≠ machine.screen.cell row column := by
    refine (hflips row column).2 ⟨2, 3, by decide, by decide, hbit, ?_, ?_, by decide⟩
    · rw [hleft]
      decide
    · rw [hleft]
      decide
  have hdark : screen.cell row column = false := by
    rw [hlit] at hflipped
    simpa using hflipped
  have hturned : collision = true := hcollision.2 ⟨row, column, hlit, hdark⟩
  rw [hturned] at hexec
  exact ⟨hindex, hinside, screen, hexec, hdark⟩

end Machine
end Chip8
