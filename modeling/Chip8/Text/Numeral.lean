/-!
# Numerals

`Numeral.toInt?` reads an integer in decimal notation as people write it: blanks around it, a
sign in front, digits of any script, and single underscores between digits.  A numeral has at
most 4300 digits.
-/

namespace Chip8
namespace Numeral

/-- The zeros of the scripts of Unicode 14 that have decimal digits.  The other nine digits of a
script follow its zero. -/
def zeros : List Nat := [
    0x30, 0x660, 0x6f0, 0x7c0, 0x966, 0x9e6, 0xa66, 0xae6, 0xb66, 0xbe6, 0xc66, 0xce6, 0xd66, 0xde6,
    0xe50, 0xed0, 0xf20, 0x1040, 0x1090, 0x17e0, 0x1810, 0x1946, 0x19d0, 0x1a80, 0x1a90, 0x1b50,
    0x1bb0, 0x1c40, 0x1c50, 0xa620, 0xa8d0, 0xa900, 0xa9d0, 0xa9f0, 0xaa50, 0xabf0, 0xff10, 0x104a0,
    0x10d30, 0x11066, 0x110f0, 0x11136, 0x111d0, 0x112f0, 0x11450, 0x114d0, 0x11650, 0x116c0,
    0x11730, 0x118e0, 0x11950, 0x11c50, 0x11d50, 0x11da0, 0x16a60, 0x16ac0, 0x16b50, 0x1d7ce,
    0x1d7d8, 0x1d7e2, 0x1d7ec, 0x1d7f6, 0x1e140, 0x1e2f0, 0x1e950, 0x1fbf0]

/-- The value of a decimal digit of any script. -/
def digit? (c : Char) : Option Nat :=
  let n := c.toNat
  (zeros.find? fun first => first ≤ n && n < first + 10).map fun first => n - first

/-- Whether a character may stand around a numeral: a tabulator, a line break or a space of any
width. -/
def isBlank (c : Char) : Bool :=
  let n := c.toNat
  (0x9 ≤ n && n ≤ 0xD) || n == 0x20 || n == 0x85 || n == 0xA0 || n == 0x1680 ||
    (0x2000 ≤ n && n ≤ 0x200A) || n == 0x2028 || n == 0x2029 || n == 0x202F || n == 0x205F ||
    n == 0x3000

/-- A text without the characters of a kind at its ends. -/
def strip (kind : Char → Bool) (text : List Char) : List Char :=
  ((text.dropWhile kind).reverse.dropWhile kind).reverse

/-- A text without the blanks around it. -/
def trim (text : List Char) : List Char :=
  strip isBlank text

/-- The largest number of digits of a numeral. -/
def maxDigits : Nat := 4300

/-- The digits of a numeral without sign, where single underscores may stand between digits.
`free` says that an underscore may come next, that is, that a digit came before. -/
def digits? (value? : Char → Option Nat) : List Char → (free : Bool) → Option (List Nat)
  | [], free => if free then some [] else none
  | '_' :: rest, free => if free then digits? value? rest false else none
  | c :: rest, _ => do
    let value ← value? c
    return value :: (← digits? value? rest true)

/-- The value of a list of digits in a base, the leading one first. -/
def value (base : Nat) (digits : List Nat) : Nat :=
  digits.foldl (fun n digit => base * n + digit) 0

/-- The value of a numeral without sign. -/
def natural? (text : List Char) : Option Nat := do
  let digits ← digits? digit? text false
  if digits.length ≤ maxDigits then return value 10 digits else none

/-- The integer that a text writes, given how the numeral behind the sign is read. -/
def signed? (natural? : List Char → Option Nat) (text : String) : Option Int :=
  match trim text.toList with
  | '-' :: rest => (natural? rest).map fun n => -(n : Int)
  | '+' :: rest => (natural? rest).map fun n => (n : Int)
  | rest => (natural? rest).map fun n => (n : Int)

/-- The integer that a text writes, if it writes one. -/
def toInt? (text : String) : Option Int :=
  signed? natural? text

end Numeral
end Chip8
