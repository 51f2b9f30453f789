import Chip8.Fault
import Chip8.Screen

/-!
# Screens of any size

A `Canvas` is a screen whose size is only known when it is made.  A side may have no length; then
there are no pixels for coordinates to wrap onto, and reading or drawing is refused with
`Error.emptyScreen`.  On every other canvas the operations are those of `Screen`.
-/

namespace Chip8

/-- A screen together with its size. -/
inductive Canvas where
  /-- A canvas without pixels, because one of its sides has no length. -/
  | empty (width height : Nat)
  | pixels {width height : Nat} (width_ne : width ≠ 0) (height_ne : height ≠ 0)
      (screen : Screen width height)

namespace Canvas

/-- A dark canvas. -/
def blank (width height : Nat) : Canvas :=
  if h : width ≠ 0 ∧ height ≠ 0 then pixels h.1 h.2 Screen.dark else empty width height

/-- The number of columns and of rows. -/
def size : Canvas → Nat × Nat
  | empty width height => (width, height)
  | @pixels width height _ _ _ => (width, height)

/-- Turns every pixel off. -/
def clear : Canvas → Canvas
  | empty width height => empty width height
  | pixels width_ne height_ne _ => pixels width_ne height_ne Screen.dark

theorem nonempty_of_ne_zero {n : Nat} (h : n ≠ 0) : Nonempty (Fin n) :=
  Fin.pos_iff_nonempty.1 (Nat.pos_of_ne_zero h)

/-- Whether the pixel at a position is lit. -/
def get (canvas : Canvas) (x y : Int) : Except Error Bool :=
  match canvas with
  | empty _ _ => .error .emptyScreen
  | pixels width_ne height_ne screen =>
    have := nonempty_of_ne_zero width_ne
    have := nonempty_of_ne_zero height_ne
    .ok (screen.get x y)

/-- Flips the pixel at a position and says whether it is lit now. -/
def toggle (canvas : Canvas) (x y : Int) : Except Error (Canvas × Bool) :=
  match canvas with
  | empty _ _ => .error .emptyScreen
  | pixels width_ne height_ne screen =>
    have := nonempty_of_ne_zero width_ne
    have := nonempty_of_ne_zero height_ne
    let (screen, lit) := screen.toggle x y
    .ok (pixels width_ne height_ne screen, lit)

/-- Draws a sprite and says whether it turned a lit pixel off. -/
def draw (canvas : Canvas) (x y : Int) (rows : List Int) (clip : Bool) :
    Except Error (Canvas × Bool) :=
  match canvas with
  | empty _ _ => .error .emptyScreen
  | pixels width_ne height_ne screen =>
    have := nonempty_of_ne_zero width_ne
    have := nonempty_of_ne_zero height_ne
    let drawn := screen.draw x y rows clip
    .ok (pixels width_ne height_ne drawn.screen, drawn.collision)

end Canvas
end Chip8
