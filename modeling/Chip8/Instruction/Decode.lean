import Chip8.Instruction

/-!
# Words of instructions

`Word` splits into the fields that instructions draw on: the leading digit `family`, the digits
`x`, `y` and `n`, the low byte `kk` and the low twelve bits `nnn`.  `Instruction.decode` reads
an instruction off a word and `Instruction.encode` writes the word of an instruction; `encode`
undoes `decode` on every word.

`Instruction.read` is the reading that `decode` rests on.  It takes any integer, and looks at
the low sixteen bits for everything but the two instructions without operands: those it
recognises only by the whole number.
-/

namespace Chip8
namespace Word

/-- The low sixteen bits of an integer. -/
def ofInt (n : Int) : Word :=
  ⟨(n % 65536).toNat, by omega⟩

/-- The word with the given high and low byte. -/
def ofBytes (high low : UInt8) : Word :=
  ⟨high.toNat * 256 + low.toNat, by have := high.toNat_lt; have := low.toNat_lt; omega⟩

/-- The leading hexadecimal digit. -/
def family (w : Word) : Nat := w.val / 4096

/-- The second hexadecimal digit. -/
def x (w : Word) : Register := ⟨w.val / 256 % 16, by omega⟩

/-- The third hexadecimal digit. -/
def y (w : Word) : Register := ⟨w.val / 16 % 16, by omega⟩

/-- The last hexadecimal digit. -/
def n (w : Word) : Fin 16 := ⟨w.val % 16, by omega⟩

/-- The low byte. -/
def kk (w : Word) : UInt8 := UInt8.ofNat (w.val % 256)

/-- The low twelve bits. -/
def nnn (w : Word) : ShortAddress := ⟨w.val % 4096, by omega⟩

end Word

namespace Alu

/-- The last digit of the function's words. -/
def code : Alu → Nat
  | load => 0x0
  | or => 0x1
  | and => 0x2
  | xor => 0x3
  | add => 0x4
  | sub => 0x5
  | shiftRight => 0x6
  | subReversed => 0x7
  | shiftLeft => 0xE

/-- The function with a given last digit. -/
def ofCode? : Nat → Option Alu
  | 0x0 => some load
  | 0x1 => some or
  | 0x2 => some and
  | 0x3 => some xor
  | 0x4 => some add
  | 0x5 => some sub
  | 0x6 => some shiftRight
  | 0x7 => some subReversed
  | 0xE => some shiftLeft
  | _ => none

theorem ofCode?_code (function : Alu) : ofCode? function.code = some function := by
  cases function <;> rfl

theorem code_of_ofCode? {digit : Nat} {function : Alu} (h : ofCode? digit = some function) :
    function.code = digit := by
  unfold ofCode? at h
  split at h <;> simp_all [code] <;> subst h <;> rfl

end Alu

namespace Instruction

/-- The instruction of the family `E` with a given low byte. -/
def ofKeyWord (w : Word) : Instruction :=
  match w.val % 256 with
  | 0x9E => skip (.keyDown w.x)
  | 0xA1 => skip (.keyUp w.x)
  | _ => unknown w

/-- The instruction of the family `F` with a given low byte. -/
def ofMachineWord (w : Word) : Instruction :=
  match w.val % 256 with
  | 0x07 => readDelay w.x
  | 0x0A => awaitKey w.x
  | 0x15 => setDelay w.x
  | 0x18 => setSound w.x
  | 0x1E => addIndex w.x
  | 0x29 => pointGlyph w.x
  | 0x33 => storeDecimal w.x
  | 0x55 => storeRegisters w.x
  | 0x65 => loadRegisters w.x
  | _ => unknown w

/-- Reads an instruction off an integer.  Fields come from the low sixteen bits; `00E0` and
`00EE` are recognised only if the whole integer is that number. -/
def read (o : Int) : Instruction :=
  let w := Word.ofInt o
  match w.family with
  | 0x0 => if o = 0x00E0 then clearScreen else if o = 0x00EE then ret else unknown w
  | 0x1 => jump w.nnn
  | 0x2 => call w.nnn
  | 0x3 => skip (.byteIs w.x w.kk)
  | 0x4 => skip (.byteIsNot w.x w.kk)
  | 0x5 => if w.n.val = 0 then skip (.same w.x w.y) else unknown w
  | 0x6 => loadByte w.x w.kk
  | 0x7 => addByte w.x w.kk
  | 0x8 =>
    match Alu.ofCode? w.n with
    | some function => alu function w.x w.y
    | none => unknown w
  | 0x9 => if w.n.val = 0 then skip (.differ w.x w.y) else unknown w
  | 0xA => setIndex w.nnn
  | 0xB => jumpOffset w.nnn
  | 0xC => random w.x w.kk
  | 0xD => draw w.x w.y w.n
  | 0xE => ofKeyWord w
  | _ => ofMachineWord w

/-- The instruction of the low sixteen bits of an integer. -/
def decode (o : Int) : Instruction :=
  read (o % 65536)

/-- The word whose leading digit is `family`, followed by a digit and a byte. -/
def digitByte (family : Nat) (x : Register) (kk : Nat) : Nat :=
  family * 4096 + x * 256 + kk

/-- The word of an instruction. -/
def encode : Instruction → Nat
  | clearScreen => 0x00E0
  | ret => 0x00EE
  | jump target => 0x1000 + target
  | call target => 0x2000 + target
  | skip (.byteIs x kk) => digitByte 0x3 x kk.toNat
  | skip (.byteIsNot x kk) => digitByte 0x4 x kk.toNat
  | skip (.same x y) => digitByte 0x5 x (y * 16)
  | skip (.differ x y) => digitByte 0x9 x (y * 16)
  | skip (.keyDown x) => digitByte 0xE x 0x9E
  | skip (.keyUp x) => digitByte 0xE x 0xA1
  | loadByte x kk => digitByte 0x6 x kk.toNat
  | addByte x kk => digitByte 0x7 x kk.toNat
  | alu function x y => digitByte 0x8 x (y * 16 + function.code)
  | setIndex address => 0xA000 + address
  | jumpOffset target => 0xB000 + target
  | random x kk => digitByte 0xC x kk.toNat
  | draw x y n => digitByte 0xD x (y * 16 + n)
  | readDelay x => digitByte 0xF x 0x07
  | awaitKey x => digitByte 0xF x 0x0A
  | setDelay x => digitByte 0xF x 0x15
  | setSound x => digitByte 0xF x 0x18
  | addIndex x => digitByte 0xF x 0x1E
  | pointGlyph x => digitByte 0xF x 0x29
  | storeDecimal x => digitByte 0xF x 0x33
  | storeRegisters x => digitByte 0xF x 0x55
  | loadRegisters x => digitByte 0xF x 0x65
  | unknown word => word

theorem toNat_kk (w : Word) : w.kk.toNat = w.val % 256 := by
  simp [Word.kk]

/-- The word of an instruction, followed by the four operands that can be read off any word, which
are two registers, a sprite height and a byte, and by the address in its last twelve bits. -/
def fields (i : Instruction) : List Nat :=
  let w := i.encode
  [w, w / 256 % 16, w / 16 % 16, w % 16, w % 256, w % 4096]

private theorem encode_ofKeyWord {w : Word} (h : w.family = 0xE) : (ofKeyWord w).encode = w := by
  have hw := w.isLt
  unfold Word.family at h
  unfold ofKeyWord
  split
  all_goals simp only [encode, digitByte, Word.x]
  all_goals omega

private theorem encode_ofMachineWord {w : Word} (h : 0xF ≤ w.family) :
    (ofMachineWord w).encode = w := by
  have hw := w.isLt
  unfold Word.family at h
  unfold ofMachineWord
  split
  all_goals simp only [encode, digitByte, Word.x]
  all_goals omega

/-- Reading an instruction loses nothing of its sixteen bits. -/
theorem encode_read (o : Int) : ((read o).encode : Int) = o % 65536 := by
  have hval : ((Word.ofInt o).val : Int) = o % 65536 := by simp only [Word.ofInt]; omega
  rw [← hval]
  have hlt := (Word.ofInt o).isLt
  norm_cast
  simp only [read]
  split
  case h_1 h =>
    unfold Word.family at h
    split
    · simp only [encode]; omega
    · split
      · simp only [encode]; omega
      · rfl
  case h_16 h1 h2 h3 h4 h5 h6 h7 h8 h9 h10 h11 h12 h13 h14 h15 =>
    apply encode_ofMachineWord
    simp only [imp_false] at *
    unfold Word.family at *
    omega
  case h_9 h =>
    unfold Word.family at h
    split
    next function hf =>
      have := Alu.code_of_ofCode? hf
      simp only [encode, digitByte, Word.x, Word.y, Word.n] at *
      omega
    · rfl
  case h_15 h => exact encode_ofKeyWord h
  all_goals
    rename_i h
    unfold Word.family at h
    try split
    all_goals simp only [encode, digitByte, toNat_kk, Word.x, Word.y, Word.n, Word.nnn] at *
    all_goals omega

/-- The word of a decoded instruction is the word that was decoded. -/
theorem encode_decode (o : Int) : ((decode o).encode : Int) = o % 65536 := by
  rw [decode, encode_read]
  omega

end Instruction
end Chip8
