import Chip8.Bits
import Chip8.Grid

/-!
# The screen

A `Screen` is a grid of pixels that are lit or dark.  A sprite is a list of rows of eight
pixels, each row a number whose bit 7 is the leftmost pixel.  Drawing a sprite flips the pixels
under its set bits, which `Screen.targets` lists; the position of the sprite is wrapped onto the
screen first, and what sticks out at the right or at the bottom either goes on at the opposite
edge or is left out.

Drawing reports a collision if some flip turned a pixel off.
-/

namespace Chip8

/-- The number of columns of a standard screen. -/
def screenWidth : Nat := 64

/-- The number of rows of a standard screen. -/
def screenHeight : Nat := 32

instance : Nonempty (Fin screenWidth) := Fin.pos_iff_nonempty.1 (by decide)

instance : Nonempty (Fin screenHeight) := Fin.pos_iff_nonempty.1 (by decide)

/-- A rectangle of pixels, of which the lit ones are `true`. -/
abbrev Screen (width height : Nat) := Grid height width Bool

namespace Sprite

/-- The number of pixels of a row. -/
def width : Nat := 8

/-- Whether a row has its pixel in a column lit, counted from the left.  Bits above the eighth
do not matter. -/
def litIn (row : Int) (column : Nat) : Bool :=
  Bits.bit row (7 - column)

/-- The rows and columns of the set bits, from top to bottom and from left to right. -/
def dots (rows : List Int) : List (Nat × Nat) :=
  rows.zipIdx.flatMap fun (row, r) => ((List.range width).filter (litIn row)).map fun c => (r, c)

end Sprite

namespace Screen

variable {width height : Nat}

/-- The result of drawing: the screen, and whether a lit pixel was turned off. -/
structure Drawn (width height : Nat) where
  screen : Screen width height
  collision : Bool

/-- All pixels dark. -/
def dark : Screen width height :=
  Grid.fill false

section Wrapped

variable [Nonempty (Fin width)] [Nonempty (Fin height)]

/-- Whether the pixel at a position is lit; both coordinates wrap. -/
def get (screen : Screen width height) (x y : Int) : Bool :=
  screen.cell (wrap height y) (wrap width x)

/-- Flips the pixel at a position and says whether it is lit now; both coordinates wrap. -/
def toggle (screen : Screen width height) (x y : Int) : Screen width height × Bool :=
  let lit := !screen.get x y
  (screen.set (wrap height y) (wrap width x) lit, lit)

/-- The positions that a sprite at `(x, y)` flips, in order.  The sprite's corner is wrapped
onto the screen; with `clip`, positions to the right of the screen or below it are left out. -/
def targets (width height : Nat) [Nonempty (Fin width)] [Nonempty (Fin height)] (x y : Int)
    (rows : List Int) (clip : Bool) : List (Int × Int) :=
  let left : Int := wrap width x
  let top : Int := wrap height y
  let spread := (Sprite.dots rows).map fun (r, c) => (left + c, top + r)
  if clip then spread.filter fun (px, py) => px < width ∧ py < height else spread

/-- Flips one pixel and keeps note of a collision. -/
def Drawn.flip (drawn : Drawn width height) (position : Int × Int) : Drawn width height :=
  let (screen, lit) := Screen.toggle drawn.screen position.1 position.2
  ⟨screen, drawn.collision || !lit⟩

/-- Flips the pixels under a sprite's set bits. -/
def draw (screen : Screen width height) (x y : Int) (rows : List Int) (clip : Bool) :
    Drawn width height :=
  (targets width height x y rows clip).foldl Drawn.flip ⟨screen, false⟩

end Wrapped
end Screen
end Chip8
