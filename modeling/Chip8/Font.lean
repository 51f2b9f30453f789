/-!
# System fonts

A font holds a glyph for each of the sixteen hexadecimal digits.  A glyph is five bytes, one
for a row of the picture from top to bottom, of which the high four bits are used; a font is
therefore eighty bytes.  Programs find the glyph of a digit by its address, which follows from
where the font was loaded (`Font.glyphAddress`).
-/

namespace Chip8

/-- The fonts that a machine can be given. -/
inductive Font where
  | chip8
  | vip
  | dream6800
  | eti660
  | fishie
  deriving DecidableEq, Repr, Inhabited

namespace Font

/-- Every font, in the order in which they are offered to a user. -/
def all : List Font :=
  [chip8, vip, dream6800, eti660, fishie]

/-- The number of bytes of a glyph, which is also its height in pixels. -/
def glyphSize : Nat := 5

/-- The number of bytes of a font. -/
def size : Nat := 16 * glyphSize

/-- The font's identifier. -/
def name : Font → String
  | chip8 => "CHIP8"
  | vip => "VIP"
  | dream6800 => "DREAM6800"
  | eti660 => "ETI660"
  | fishie => "FISHIE"

/-- The name of the machine that the font comes from, as it is shown to a reader. -/
def title : Font → String
  | chip8 => "CHIP-8"
  | vip => "VIP"
  | dream6800 => "DREAM 6800"
  | eti660 => "ETI 660"
  | fishie => "FISHIE"

/-- The name by which a user chooses the font. -/
def optionName : Font → String
  | chip8 => "chip8"
  | vip => "vip"
  | dream6800 => "dream6800"
  | eti660 => "eti660"
  | fishie => "fishie"

/-- The font with a given identifier. -/
def ofName? (name : String) : Option Font :=
  all.find? (·.name == name)

/-- The glyphs of most interpreters. -/
def chip8Glyphs : List UInt8 := [
  0xF0, 0x90, 0x90, 0x90, 0xF0,
  0x20, 0x60, 0x20, 0x20, 0x70,
  0xF0, 0x10, 0xF0, 0x80, 0xF0,
  0xF0, 0x10, 0xF0, 0x10, 0xF0,
  0x90, 0x90, 0xF0, 0x10, 0x10,
  0xF0, 0x80, 0xF0, 0x10, 0xF0,
  0xF0, 0x80, 0xF0, 0x90, 0xF0,
  0xF0, 0x10, 0x20, 0x40, 0x40,
  0xF0, 0x90, 0xF0, 0x90, 0xF0,
  0xF0, 0x90, 0xF0, 0x10, 0xF0,
  0xF0, 0x90, 0xF0, 0x90, 0x90,
  0xE0, 0x90, 0xE0, 0x90, 0xE0,
  0xF0, 0x80, 0x80, 0x80, 0xF0,
  0xE0, 0x90, 0x90, 0x90, 0xE0,
  0xF0, 0x80, 0xF0, 0x80, 0xF0,
  0xF0, 0x80, 0xF0, 0x80, 0x80]

/-- The glyphs of the VIP. -/
def vipGlyphs : List UInt8 := [
  0xF0, 0x90, 0x90, 0x90, 0xF0,
  0x60, 0x20, 0x20, 0x20, 0x70,
  0xF0, 0x10, 0xF0, 0x80, 0xF0,
  0xF0, 0x10, 0xF0, 0x10, 0xF0,
  0xA0, 0xA0, 0xF0, 0x20, 0x20,
  0xF0, 0x80, 0xF0, 0x10, 0xF0,
  0xF0, 0x80, 0xF0, 0x90, 0xF0,
  0xF0, 0x10, 0x10, 0x10, 0x10,
  0xF0, 0x90, 0xF0, 0x90, 0xF0,
  0xF0, 0x90, 0xF0, 0x10, 0xF0,
  0xF0, 0x90, 0xF0, 0x90, 0x90,
  0xF0, 0x50, 0x70, 0x50, 0xF0,
  0xF0, 0x80, 0x80, 0x80, 0xF0,
  0xF0, 0x50, 0x50, 0x50, 0xF0,
  0xF0, 0x80, 0xF0, 0x80, 0xF0,
  0xF0, 0x80, 0xF0, 0x80, 0x80]

/-- The glyphs of the DREAM 6800, three pixels wide. -/
def dream6800Glyphs : List UInt8 := [
  0xE0, 0xA0, 0xA0, 0xA0, 0xE0,
  0x40, 0x40, 0x40, 0x40, 0x40,
  0xE0, 0x20, 0xE0, 0x80, 0xE0,
  0xE0, 0x20, 0xE0, 0x20, 0xE0,
  0x80, 0xA0, 0xA0, 0xE0, 0x20,
  0xE0, 0x80, 0xE0, 0x20, 0xE0,
  0xE0, 0x80, 0xE0, 0xA0, 0xE0,
  0xE0, 0x20, 0x20, 0x20, 0x20,
  0xE0, 0xA0, 0xE0, 0xA0, 0xE0,
  0xE0, 0xA0, 0xE0, 0x20, 0xE0,
  0xE0, 0xA0, 0xE0, 0xA0, 0xA0,
  0xC0, 0xA0, 0xE0, 0xA0, 0xC0,
  0xE0, 0x80, 0x80, 0x80, 0xE0,
  0xC0, 0xA0, 0xA0, 0xA0, 0xC0,
  0xE0, 0x80, 0xE0, 0x80, 0xE0,
  0xE0, 0x80, 0xC0, 0x80, 0x80]

/-- The glyphs of the ETI 660, three pixels wide. -/
def eti660Glyphs : List UInt8 := [
  0xE0, 0xA0, 0xA0, 0xA0, 0xE0,
  0x20, 0x20, 0x20, 0x20, 0x20,
  0xE0, 0x20, 0xE0, 0x80, 0xE0,
  0xE0, 0x20, 0xE0, 0x20, 0xE0,
  0xA0, 0xA0, 0xE0, 0x20, 0x20,
  0xE0, 0x80, 0xE0, 0x20, 0xE0,
  0xE0, 0x80, 0xE0, 0xA0, 0xE0,
  0xE0, 0x20, 0x20, 0x20, 0x20,
  0xE0, 0xA0, 0xE0, 0xA0, 0xE0,
  0xE0, 0xA0, 0xE0, 0x20, 0xE0,
  0xE0, 0xA0, 0xE0, 0xA0, 0xA0,
  0x80, 0x80, 0xE0, 0xA0, 0xE0,
  0xE0, 0x80, 0x80, 0x80, 0xE0,
  0x20, 0x20, 0xE0, 0xA0, 0xE0,
  0xE0, 0x80, 0xE0, 0x80, 0xE0,
  0xE0, 0x80, 0xC0, 0x80, 0x80]

/-- The glyphs of FISHIE, with rounded corners. -/
def fishieGlyphs : List UInt8 := [
  0x60, 0xA0, 0xA0, 0xA0, 0xC0,
  0x40, 0xC0, 0x40, 0x40, 0xE0,
  0xC0, 0x20, 0x40, 0x80, 0xE0,
  0xC0, 0x20, 0x40, 0x20, 0xC0,
  0x20, 0xA0, 0xE0, 0x20, 0x20,
  0xE0, 0x80, 0xC0, 0x20, 0xC0,
  0x40, 0x80, 0xC0, 0xA0, 0x40,
  0xE0, 0x20, 0x60, 0x40, 0x40,
  0x40, 0xA0, 0x40, 0xA0, 0x40,
  0x40, 0xA0, 0x60, 0x20, 0x40,
  0x40, 0xA0, 0xE0, 0xA0, 0xA0,
  0xC0, 0xA0, 0xC0, 0xA0, 0xC0,
  0x60, 0x80, 0x80, 0x80, 0x60,
  0xC0, 0xA0, 0xA0, 0xA0, 0xC0,
  0xE0, 0x80, 0xC0, 0x80, 0xE0,
  0xE0, 0x80, 0xC0, 0x80, 0x80]

/-- The bytes of a font: the glyphs of the digits from 0 to F, one after the other. -/
def glyphs : Font → List UInt8
  | chip8 => chip8Glyphs
  | vip => vipGlyphs
  | dream6800 => dream6800Glyphs
  | eti660 => eti660Glyphs
  | fishie => fishieGlyphs

/-- The address of a digit's glyph in a font that was loaded at `offset`.  Only the low four
bits of `digit` select the glyph. -/
def glyphAddress (offset digit : Int) : Int :=
  offset + digit % 16 * glyphSize

@[simp] theorem length_glyphs (font : Font) : font.glyphs.length = size := by
  cases font <;> rfl

end Font
end Chip8
