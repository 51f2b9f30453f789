/-!
# Hexadecimal numbers

Addresses and opcodes appear in messages as upper-case hexadecimal numbers, filled up with
zeros to a width that counts the minus sign too.  A number that needs more digits takes them,
so the width is a lower bound and nothing is ever cut off.
-/

namespace Chip8
namespace Hex

/-- The upper-case hexadecimal digits of `n`, without leading zeros; zero is one digit. -/
def digits (n : Nat) : List Char :=
  (Nat.toDigits 16 n).map Char.toUpper

/-- `digits n` with zeros in front until there are at least `width` of them. -/
def zeroFilled (width n : Nat) : List Char :=
  let shown := digits n
  List.replicate (width - shown.length) '0' ++ shown

/-- The text of `n` in at least `width` characters.  A minus sign stands before the zeros and
uses up one place. -/
def padded (width : Nat) (n : Int) : String :=
  if n < 0 then String.ofList ('-' :: zeroFilled (width - 1) n.natAbs)
  else String.ofList (zeroFilled width n.natAbs)

/-- The lower-case hexadecimal digits of `n` with zeros in front until there are at least `width`
of them. -/
def lower (width n : Nat) : List Char :=
  let shown := Nat.toDigits 16 n
  List.replicate (width - shown.length) '0' ++ shown

end Hex
end Chip8
