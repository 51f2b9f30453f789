/-!
# Decimals

A `Decimal` is a whole number of a power of ten.  `Decimal.read?` takes one from a text with
digits, a point and an exponent and gives the nearest number of double precision.
`Decimal.shortest` goes the other way: it is a decimal with the fewest digits that reads back to
a number, and among those the nearest to it.  `Decimal.text` writes numbers in this form.
-/

namespace Chip8

/-- The number `digits * 10 ^ exponent`. -/
structure Decimal where
  digits : Nat
  exponent : Int
  deriving DecidableEq, Repr, Inhabited

namespace Decimal

/-! ## Reading -/

/-- How many decimal digits a number has. -/
def length (n : Nat) : Nat :=
  (Nat.toDigits 10 n).length

/-- More than every finite number of double precision. -/
def infinity : Float :=
  1 / 0

/-- The nearest number of double precision. -/
def toFloat (decimal : Decimal) : Float :=
  let size := length decimal.digits + decimal.exponent
  if decimal.digits = 0 ∨ size < -330 then 0
  else if 310 < size then infinity
  else Float.ofScientific decimal.digits (decimal.exponent < 0) decimal.exponent.natAbs

/-- The number that some digits write. -/
def ofDigits (digits : List Char) : Nat :=
  digits.foldl (fun n c => 10 * n + (c.toNat - '0'.toNat)) 0

/-- The exponent that a text writes behind the digits, if it is one. -/
def exponent? : List Char → Option Int
  | [] => some 0
  | mark :: sign :: digits =>
    if mark ≠ 'e' ∧ mark ≠ 'E' then none
    else if sign = '-' then some (-(ofDigits digits : Int))
    else if sign = '+' then some (ofDigits digits)
    else some (ofDigits (sign :: digits))
  | [_] => none

/-- The number that a text without a sign writes. -/
def readUnsigned? (text : List Char) : Option Float :=
  if text = "Infinity".toList then some infinity
  else if text = "NaN".toList then some (0 / 0)
  else
    let whole := text.takeWhile Char.isDigit
    let behind := text.dropWhile Char.isDigit
    let (decimals, behind) :=
      match behind with
      | '.' :: rest => (rest.takeWhile Char.isDigit, rest.dropWhile Char.isDigit)
      | _ => ([], behind)
    (exponent? behind).map fun exponent =>
      toFloat ⟨ofDigits (whole ++ decimals), exponent - decimals.length⟩

/-- The number that a text writes. -/
def read? : List Char → Option Float
  | '-' :: text => (readUnsigned? text).map fun x => -x
  | text => readUnsigned? text

/-! ## Writing -/

/-- The numerator and the denominator of a finite number that is not below zero. -/
def ratio (x : Float) : Nat × Nat :=
  let bits := x.toBits.toNat
  let fraction := bits % 0x10000000000000
  let scale : Nat := bits / 0x10000000000000 % 0x800
  let digits := if scale = 0 then fraction else 0x10000000000000 + fraction
  let exponent : Int := if scale = 0 then -1074 else (scale : Int) - 1075
  (digits * Nat.pow 2 exponent.toNat, Nat.pow 2 (-exponent).toNat)

/-- How many digits a fraction has before the point; below zero, how many zeros follow it. -/
def wholeDigits (numerator denominator : Nat) : Int :=
  if denominator ≤ numerator then length (numerator / denominator)
  else 1 - (length (denominator / numerator) : Int)

/-- The decimals next to a fraction with a given exponent, the nearer one first and, of two that
are equally near, the even one. -/
def neighbours (numerator denominator : Nat) (exponent : Int) : List Decimal :=
  let n := numerator * Nat.pow 10 (-exponent).toNat
  let unit := denominator * Nat.pow 10 exponent.toNat
  let below : Decimal := ⟨n / unit, exponent⟩
  let above : Decimal := ⟨n / unit + 1, exponent⟩
  let rest := n % unit
  if 2 * rest < unit ∨ (2 * rest = unit ∧ n / unit % 2 = 0) then [below, above]
  else [above, below]

/-- The number of digits that always suffices for double precision. -/
def enoughDigits : Nat := 17

/-- The nearest decimal among those with the fewest digits that read back to a finite number above
zero. -/
def shortest (x : Float) : Decimal :=
  let (numerator, denominator) := ratio x
  let whole := wholeDigits numerator denominator
  let candidates := (List.range enoughDigits).flatMap fun (count : Nat) =>
    neighbours numerator denominator (whole - (count + 1))
  (candidates.find? fun decimal => decimal.toFloat == x).getD ⟨numerator / denominator, 0⟩

/-- The digits of a number without the zeros at its end. -/
def significant (n : Nat) : List Char :=
  ((Nat.toDigits 10 n).reverse.dropWhile (· = '0')).reverse

/-- An exponent with its sign and at least two digits. -/
def exponentText (exponent : Int) : List Char :=
  let digits := Nat.toDigits 10 exponent.natAbs
  (if exponent < 0 then '-' else '+') :: (List.replicate (2 - digits.length) '0' ++ digits)

/-- A decimal above zero in words.  The point is written where it stands for numbers from a
ten-thousandth to below ten to the sixteenth; any other has one digit before the point and an
exponent. -/
def written (decimal : Decimal) : List Char :=
  let digits := significant decimal.digits
  let point := length decimal.digits + decimal.exponent
  if -4 < point ∧ point ≤ 16 then
    if point ≤ 0 then '0' :: '.' :: (List.replicate (-point).toNat '0' ++ digits)
    else
      let whole := digits.take point.toNat
      let decimals := digits.drop point.toNat
      whole ++ List.replicate (point.toNat - whole.length) '0' ++
        '.' :: (if decimals.isEmpty then ['0'] else decimals)
  else
    let behind := if digits.length ≤ 1 then [] else '.' :: digits.drop 1
    digits.take 1 ++ behind ++ 'e' :: exponentText (point - 1)

/-- A number without its sign in words. -/
def unsignedText (x : Float) : String :=
  if x.isInf then "inf"
  else if x == 0 then "0.0"
  else String.ofList (shortest x).written

/-- A number in words. -/
def text (x : Float) : String :=
  if x.isNaN then "nan"
  else if 0x8000000000000000 ≤ x.toBits.toNat then "-" ++ unsignedText (-x)
  else unsignedText x

end Decimal
end Chip8
