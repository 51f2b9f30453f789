import Chip8.Screen

/-!
# Pictures

A picture of a screen has a colour for every pixel: the foreground where the pixel is lit and
the background where it is dark.  With a bloom above zero lit pixels shine on their
surroundings.  The glow is a box blur of the screen (`Picture.blur`), which wraps around the
edges as sprites do, so that nothing marks where the screen begins.

All arithmetic is in single precision and in a fixed order; the three neighbours in a row or
column are summed from the one before to the one behind.
-/

namespace Chip8

/-- A colour as a host names it, each part from 0 to 255. -/
structure Color where
  red : Int
  green : Int
  blue : Int
  deriving DecidableEq, Repr, Inhabited

/-- The colour of a pixel as it is shown. -/
structure Rgb where
  red : UInt8
  green : UInt8
  blue : UInt8
  deriving DecidableEq, Repr, Inhabited

/-- The colour of dark pixels. -/
def Color.background : Color := ⟨15, 15, 25⟩

/-- The place before a place on a circle. -/
def placeBefore {n : Nat} (i : Fin n) : Fin n :=
  ⟨(i.val + (n - 1)) % n, Nat.mod_lt _ (by have := i.isLt; omega)⟩

/-- The place behind a place on a circle. -/
def placeAfter {n : Nat} (i : Fin n) : Fin n :=
  ⟨(i.val + 1) % n, Nat.mod_lt _ (by have := i.isLt; omega)⟩

namespace Picture

variable {height width : Nat}

/-! ## Blur -/

/-- The mean of three neighbours, summed in this order. -/
def mean (before here after : Float32) : Float32 :=
  (before + here + after) / 3

/-- Every cell becomes the mean of itself and its two neighbours in the row. -/
def blurRows (grid : Grid height width Float32) : Grid height width Float32 :=
  .ofFn fun y x => mean (grid.cell y (placeBefore x)) (grid.cell y x) (grid.cell y (placeAfter x))

/-- Every cell becomes the mean of itself and its two neighbours in the column. -/
def blurColumns (grid : Grid height width Float32) : Grid height width Float32 :=
  .ofFn fun y x => mean (grid.cell (placeBefore y) x) (grid.cell y x) (grid.cell (placeAfter y) x)

/-- A box blur: in each pass first along the rows, and then along the columns. -/
def blur (passes : Nat) (grid : Grid height width Float32) : Grid height width Float32 :=
  Nat.repeat (fun grid => blurColumns (blurRows grid)) passes grid

/-! ## Colours -/

/-- The number of passes of the blur that makes the glow. -/
def glowPasses : Nat := 2

/-- A brightness cut to the range from zero to one. -/
def clip (brightness : Float32) : Float32 :=
  if brightness < 0 then 0 else if 1 < brightness then 1 else brightness

/-- The larger of two brightnesses; what is not a number stays so. -/
def brighter (first second : Float32) : Float32 :=
  if second.isNaN then second else if first < second then second else first

/-- The brightness of every pixel with the glow of its surroundings. -/
def withGlow (bloom : Float) (lit : Grid height width Float32) : Grid height width Float32 :=
  if 0 < bloom then
    let strength := bloom.toFloat32
    let blurred := blur glowPasses lit
    .ofFn fun y x => brighter (lit.cell y x) (clip (blurred.cell y x * strength))
  else lit

/-- The nearest integer, and of two the even one. -/
def roundEven (x : Float32) : Float32 :=
  let below := x.floor
  let rest := x - below
  if rest < 0.5 then below
  else if 0.5 < rest then below + 1
  else if (below / 2).floor == below / 2 then below
  else below + 1

/-- The low eight bits of an integral number that fits into 32 bits, and zero for any other. -/
def toByte (x : Float32) : UInt8 :=
  if x.abs < 2147483648 then UInt8.ofInt x.toInt64.toInt else 0

/-- A part of a colour between background and foreground. -/
def blend (background foreground : Float) (brightness : Float32) : UInt8 :=
  let back := background.toFloat32
  let fore := foreground.toFloat32
  toByte (roundEven (back + brightness * (fore - back)))

/-- The colour of a pixel by its brightness. -/
def tint (foreground background : Color) (brightness : Float32) : Rgb where
  red := blend (.ofInt background.red) (.ofInt foreground.red) brightness
  green := blend (.ofInt background.green) (.ofInt foreground.green) brightness
  blue := blend (.ofInt background.blue) (.ofInt foreground.blue) brightness

/-- The parts of the colour of a pixel by its brightness, given those of the background and of the
foreground in pairs.  A host may ask for colours of any number of parts. -/
def shade (parts : List (Float × Float)) (brightness : Float32) : List UInt8 :=
  parts.map fun (back, fore) => blend back fore brightness

/-- The picture of a grid of brightnesses, as columns from left to right, where `shade` is the
colour of a pixel by its brightness. -/
def ofGrid {α : Type} (lit : Grid height width Float32) (shade : Float32 → α) (bloom : Float) :
    Grid width height α :=
  let bright := withGlow bloom lit
  .ofFn fun x y => shade (bright.cell y x)

/-- The brightness of the pixels of a screen without glow. -/
def brightness (screen : Screen width height) : Grid height width Float32 :=
  .ofFn fun y x => if screen.cell y x then 1 else 0

end Picture
end Chip8
