import Mathlib.Data.Int.ModEq
import Chip8.Window

/-!
# Pictures without a seam

A screen has edges, but its picture does not show where they are.  If the pixels are shifted, and
those that leave at an edge come in at the opposite one, then the picture is shifted likewise and is
the same otherwise, to the last bit (`Picture.rendering_of_shifted`).

Sums of floating-point numbers depend on their order, so this rests on every cell adding up its
neighbours in one and the same order, at the edges as anywhere else.  That is all the proofs use:
the neighbour of a shifted place is the shifted neighbour (`origin_placeBefore`,
`origin_placeAfter`), and what is computed from the neighbours may be any function of them.
-/

namespace Chip8

/-! ## Shifts of a circle -/

/-- The place from where a shift by `d` fills a place on a circle. -/
def origin {n : Nat} (i : Fin n) (d : Int) : Fin n :=
  have hn := i.isLt
  have hlt := Int.emod_lt_of_pos (i.val - d) (by omega : (0 : Int) < n)
  have hle := Int.emod_nonneg (i.val - d) (by omega : (n : Int) ≠ 0)
  ⟨((i.val - d) % n).toNat, by omega⟩

section Circle

variable {n : Nat} (i : Fin n) (d : Int)

theorem val_origin : ((origin i d).val : Int) = (i.val - d) % n := by
  have hn := i.isLt
  have hle := Int.emod_nonneg (i.val - d) (by omega : (n : Int) ≠ 0)
  simp only [origin]
  omega

theorem val_placeBefore : ((placeBefore i).val : Int) = (i.val - 1) % n := by
  have hn := i.isLt
  have hback : ((i.val + (n - 1) : Nat) : Int) = i.val - 1 + n := by omega
  rw [placeBefore, Int.natCast_emod, hback, Int.add_emod_right]

theorem val_placeAfter : ((placeAfter i).val : Int) = (i.val + 1) % n := by
  rw [placeAfter, Int.natCast_emod, Int.natCast_add]
  rfl

/-- Before a place of the shifted circle is what is before the place it was filled from. -/
theorem origin_placeBefore : origin (placeBefore i) d = placeBefore (origin i d) := by
  have hval : ((origin (placeBefore i) d).val : Int) = (placeBefore (origin i d)).val := by
    rw [val_origin, val_placeBefore, val_placeBefore, val_origin, Int.emod_sub_emod,
      Int.emod_sub_emod, sub_right_comm]
  exact Fin.ext (Int.natCast_inj.1 hval)

theorem origin_placeAfter : origin (placeAfter i) d = placeAfter (origin i d) := by
  have hval : ((origin (placeAfter i) d).val : Int) = (placeAfter (origin i d)).val := by
    rw [val_origin, val_placeAfter, val_placeAfter, val_origin, Int.emod_sub_emod,
      Int.emod_add_emod, add_sub_right_comm]
  exact Fin.ext (Int.natCast_inj.1 hval)

end Circle

/-! ## Shifts of a grid -/

namespace Grid

variable {height width : Nat} {α β : Type}

/-- The grid with its cells moved down by `dy` rows and to the right by `dx` columns.  What leaves
at an edge comes in at the opposite one. -/
def shift (grid : Grid height width α) (dy dx : Int) : Grid height width α :=
  .ofFn fun y x => grid.cell (origin y dy) (origin x dx)

/-- The grid with a function applied to every cell. -/
def map (f : α → β) (grid : Grid height width α) : Grid height width β :=
  .ofFn fun y x => f (grid.cell y x)

@[simp] theorem cell_shift (grid : Grid height width α) (dy dx : Int) (y : Fin height)
    (x : Fin width) : (grid.shift dy dx).cell y x = grid.cell (origin y dy) (origin x dx) :=
  cell_ofFn _ y x

@[simp] theorem cell_map (f : α → β) (grid : Grid height width α) (y : Fin height) (x : Fin width) :
    (grid.map f).cell y x = f (grid.cell y x) :=
  cell_ofFn _ y x

theorem map_shift (f : α → β) (grid : Grid height width α) (dy dx : Int) :
    (grid.shift dy dx).map f = (grid.map f).shift dy dx := by
  apply ext_cell
  intro y x
  rw [cell_map, cell_shift, cell_shift, cell_map]

end Grid

/-! ## What is made of a shifted grid -/

namespace Picture

variable {height width : Nat} (grid : Grid height width Float32) (dy dx : Int)

theorem blurRows_shift : blurRows (grid.shift dy dx) = (blurRows grid).shift dy dx := by
  apply Grid.ext_cell
  intro y x
  simp only [blurRows, Grid.cell_ofFn, Grid.cell_shift, origin_placeBefore, origin_placeAfter]

theorem blurColumns_shift : blurColumns (grid.shift dy dx) = (blurColumns grid).shift dy dx := by
  apply Grid.ext_cell
  intro y x
  simp only [blurColumns, Grid.cell_ofFn, Grid.cell_shift, origin_placeBefore, origin_placeAfter]

theorem blur_shift (passes : Nat) :
    blur passes (grid.shift dy dx) = (blur passes grid).shift dy dx := by
  induction passes with
  | zero => rfl
  | succ passes ih =>
    have hpass (grid : Grid height width Float32) :
        blur (passes + 1) grid = blurColumns (blurRows (blur passes grid)) := rfl
    rw [hpass, ih, blurRows_shift, blurColumns_shift, hpass]

theorem brightness_shift (screen : Screen width height) :
    brightness (screen.shift dy dx) = (brightness screen).shift dy dx := by
  apply Grid.ext_cell
  intro y x
  simp only [brightness, Grid.cell_ofFn, Grid.cell_shift]

theorem withGlow_shift (bloom : Float) :
    withGlow bloom (grid.shift dy dx) = (withGlow bloom grid).shift dy dx := by
  unfold withGlow
  split
  · apply Grid.ext_cell
    intro y x
    simp only [blur_shift, Grid.cell_ofFn, Grid.cell_shift]
  · rfl

/-- The picture has columns for rows, and so has its shift. -/
theorem ofGrid_shift {α : Type} (shade : Float32 → α) (bloom : Float) :
    ofGrid (grid.shift dy dx) shade bloom = (ofGrid grid shade bloom).shift dx dy := by
  apply Grid.ext_cell
  intro x y
  simp only [ofGrid, withGlow_shift, Grid.cell_ofFn, Grid.cell_shift]

/-- Shifted pixels have a shifted blur, however often it is passed, and a shifted picture with any
glow and in any colours, whether these are given by their parts or as a window has them: what is
read off the shifted grid is, cell by cell, the very value that is read off the grid itself.  The
pixels may be anything that stands for a brightness. -/
theorem rendering_of_shifted {α : Type} (pixels : Grid height width α) (value : α → Float32)
    (dy dx : Int) :
    (∀ passes : Nat,
      blur passes ((pixels.shift dy dx).map value) =
        (blur passes (pixels.map value)).shift dy dx) ∧
    (∀ (parts : List (Float × Float)) (bloom : Float),
      ofGrid ((pixels.shift dy dx).map value) (shade parts) bloom =
        (ofGrid (pixels.map value) (shade parts) bloom).shift dx dy) ∧
    ∀ (foreground background : Color) (bloom : Float),
      ofGrid ((pixels.shift dy dx).map value) (tint foreground background) bloom =
        (ofGrid (pixels.map value) (tint foreground background) bloom).shift dx dy := by
  rw [Grid.map_shift]
  exact ⟨fun passes => blur_shift (pixels.map value) dy dx passes,
    fun parts bloom => ofGrid_shift (pixels.map value) dy dx (shade parts) bloom,
    fun foreground background bloom =>
      ofGrid_shift (pixels.map value) dy dx (tint foreground background) bloom⟩

/-- A pixel that is lit in a corner is shifted by more than the height and the width. -/
theorem rendering_of_shifted_corner :
    let pixels : Grid 2 3 Bool := .ofFn fun y x => y.val == 0 && x.val == 2
    let value (lit : Bool) : Float32 := if lit then 1 else 0
    let green (grid : Grid 2 3 Float32) : Grid 3 2 Rgb :=
      ofGrid grid (tint ⟨0, 255, 128⟩ Color.background) Window.bloom
    (blur 2 ((pixels.shift 3 (-5)).map value)).cell 0 0 = (blur 2 (pixels.map value)).cell 1 2 ∧
      (green ((pixels.shift 3 (-5)).map value)).cell 0 0 =
        (green (pixels.map value)).cell 2 1 := by
  intro pixels value green
  obtain ⟨hblur, -, hpicture⟩ := rendering_of_shifted pixels value 3 (-5)
  have hrow : origin (0 : Fin 2) 3 = 1 := by decide
  have hcolumn : origin (0 : Fin 3) (-5) = 2 := by decide
  constructor
  · rw [hblur, Grid.cell_shift, hrow, hcolumn]
  · have hgreen : green ((pixels.shift 3 (-5)).map value) =
        (green (pixels.map value)).shift (-5) 3 :=
      hpicture ⟨0, 255, 128⟩ Color.background Window.bloom
    rw [hgreen, Grid.cell_shift, hrow, hcolumn]

end Picture

/-! ## The window -/

/-- The picture of a window shows nothing of where the screen begins. -/
theorem Window.picture_of_shifted (window : Window) (dy dx : Int) :
    let machine := window.device.machine
    let shifted := { machine with screen := machine.screen.shift dy dx }
    { window with device := { window.device with machine := shifted } }.picture =
      window.picture.shift dx dy := by
  intro machine shifted
  change Picture.ofGrid (Picture.brightness (machine.screen.shift dy dx)) _ bloom = _
  rw [Picture.brightness_shift, Picture.ofGrid_shift]
  rfl

end Chip8
