import Chip8.Text.Hex
import Chip8.Text.Printable

/-!
# Quoted text

A text that a message quotes stands between quotes.  They are single quotes, unless the text
holds some and no double quotes.  Inside, a backslash comes before a backslash and before the
surrounding quote, and a character that is not printable is written by its code point.
-/

namespace Chip8
namespace Quoted

/-- A character by its code point, in the shortest of three forms. -/
def byCodePoint (c : Char) : List Char :=
  let n := c.toNat
  if n ≤ 0xFF then '\\' :: 'x' :: Hex.lower 2 n
  else if n ≤ 0xFFFF then '\\' :: 'u' :: Hex.lower 4 n
  else '\\' :: 'U' :: Hex.lower 8 n

/-- A character as it is written between a kind of quotes. -/
def encodeChar (quote c : Char) : List Char :=
  if c = quote || c = '\\' then ['\\', c]
  else if c = '\t' then ['\\', 't']
  else if c = '\n' then ['\\', 'n']
  else if c = '\r' then ['\\', 'r']
  else if Text.isPrintable c then [c]
  else byCodePoint c

/-- The quotes around a text. -/
def quoteFor (text : List Char) : Char :=
  if '\'' ∈ text ∧ '"' ∉ text then '"' else '\''

/-- A text in quotes. -/
def encode (text : String) : String :=
  let quote := quoteFor text.toList
  String.ofList (quote :: text.toList.flatMap (encodeChar quote) ++ [quote])

end Quoted
end Chip8
