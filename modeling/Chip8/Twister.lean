/-!
# Random bytes

The machine's random bytes come from the Mersenne Twister with a period of `2 ^ 19937 - 1`: 624
words of 32 bits that are renewed all at once by a linear recurrence, and tempered one by one as
they are drawn.  A seed fixes the whole stream of bytes.

A byte is drawn from the nine leading bits of a word; a word whose nine bits make more than 255
is passed over (`Twister.byte`).
-/

namespace Chip8

/-- The state of the generator: its words, and how many of them have been drawn. -/
structure Twister where
  words : Vector UInt32 624
  drawn : Nat
  deriving DecidableEq, Repr

namespace Twister

/-- The number of words of the state. -/
abbrev count : Nat := 624

/-! ## Seeding -/

/-- A word mixed with its own leading bits, which spreads a seed over the state. -/
def spread (word : UInt32) : UInt32 :=
  word ^^^ (word >>> 30)

/-- The words that a single number starts. -/
def ofNumber (number : UInt32) : Vector UInt32 count :=
  Nat.fold count
    (fun i _ words =>
      if i = 0 then words.set 0 number
      else words.set i (1812433253 * spread words[i - 1] + UInt32.ofNat i))
    (Vector.replicate count 0)

/-- Words that are being mixed with a key, the place of the next word to replace, and the place
in the key that goes with it. -/
structure Mixing where
  words : Vector UInt32 count
  place : Fin count
  keyPlace : Nat

namespace Mixing

/-- The next word to replace. -/
def current (mixing : Mixing) : UInt32 :=
  mixing.words[mixing.place]

/-- The word before it, mixed with its own leading bits. -/
def previous (mixing : Mixing) : UInt32 :=
  spread mixing.words[mixing.place - 1]

/-- Replaces a word and goes on to the next.  Behind the last word the second one follows, and
the first word becomes a copy of the last.  The key starts over when it is used up. -/
def replace (mixing : Mixing) (keyLength : Nat) (word : UInt32) : Mixing :=
  let words := mixing.words.set mixing.place word
  let keyPlace := if mixing.keyPlace + 1 < keyLength then mixing.keyPlace + 1 else 0
  if mixing.place.val + 1 < count then ⟨words, mixing.place + 1, keyPlace⟩
  else ⟨words.set 0 words[count - 1], 1, keyPlace⟩

/-- Mixes in the key's next word. -/
def addKey (key : Array UInt32) (mixing : Mixing) : Mixing :=
  mixing.replace key.size <|
    (mixing.current ^^^ (mixing.previous * 1664525)) + key.getD mixing.keyPlace 0
      + UInt32.ofNat mixing.keyPlace

/-- Mixes in the place of a word. -/
def addPlace (mixing : Mixing) : Mixing :=
  mixing.replace 0 <|
    (mixing.current ^^^ (mixing.previous * 1566083941)) - UInt32.ofNat mixing.place

end Mixing

/-- The generator that a key of several words starts. -/
def ofKey (key : Array UInt32) : Twister :=
  let started : Mixing := ⟨ofNumber 19650218, 1, 0⟩
  let keyed := Nat.repeat (Mixing.addKey key) (max count key.size) started
  let mixed := Nat.repeat Mixing.addPlace (count - 1) keyed
  ⟨mixed.words.set 0 0x80000000, count⟩

/-- The 32-bit digits of a number, lowest first; zero has one digit. -/
def keyDigits (n : Nat) : List UInt32 :=
  if h : n < 0x100000000 then [UInt32.ofNat n]
  else UInt32.ofNat (n % 0x100000000) :: keyDigits (n / 0x100000000)
termination_by n
decreasing_by omega

/-- The generator of a seed.  The sign of the seed does not matter. -/
def ofSeed (seed : Int) : Twister :=
  ofKey (keyDigits seed.natAbs).toArray

/-! ## Drawing -/

/-- The word that a word and its two partners in the recurrence make. -/
def twist (word next far : UInt32) : UInt32 :=
  let joined := (word &&& 0x80000000) ||| (next &&& 0x7fffffff)
  far ^^^ (joined >>> 1) ^^^ (if joined &&& 1 = 1 then 0x9908b0df else 0)

/-- All words renewed, in order; a word renewed early is already a partner of a later one. -/
def renew (words : Vector UInt32 count) : Vector UInt32 count :=
  (List.finRange count).foldl
    (fun words (i : Fin count) => words.set i (twist words[i] words[i + 1] words[i + 397])) words

/-- Evens out the bits of a drawn word. -/
def temper (word : UInt32) : UInt32 :=
  let word := word ^^^ (word >>> 11)
  let word := word ^^^ ((word <<< 7) &&& 0x9d2c5680)
  let word := word ^^^ ((word <<< 15) &&& 0xefc60000)
  word ^^^ (word >>> 18)

/-- Draws a word of 32 bits. -/
def word (twister : Twister) : UInt32 × Twister :=
  if h : twister.drawn < count then
    (temper twister.words[twister.drawn], { twister with drawn := twister.drawn + 1 })
  else
    let words := renew twister.words
    (temper words[0], ⟨words, 1⟩)

/-- Draws words until the nine leading bits of one make a byte, up to a number of words. -/
def byteWithin : Nat → Twister → UInt8 × Twister
  | 0, twister => (0, twister)
  | tries + 1, twister =>
    let (word, rest) := twister.word
    let bits := (word >>> 23).toNat
    if bits < 256 then (UInt8.ofNat bits, rest) else byteWithin tries rest

/-- Draws a byte.  The bits in one place of the words are a recurring sequence of order 19937
with the longest possible period, so that no more than 19937 of them in a row are set, and the
bound on the words drawn is never reached. -/
def byte (twister : Twister) : UInt8 × Twister :=
  byteWithin 19938 twister

end Twister
end Chip8
