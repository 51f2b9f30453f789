/-!
# Instructions

The machine knows thirty-four instructions.  An `Instruction` carries its operands: registers
`x` and `y`, a byte `kk`, a sprite height `n` or a twelve-bit address `nnn`, named after the
places that they take in the instruction's word.  Instructions that only differ in a condition or
in an arithmetic function share a constructor and differ in a `Condition` or an `Alu`.  A word that
is no instruction is kept as `unknown`.

The words themselves are in `Chip8.Instruction.Decode`.
-/

namespace Chip8

/-- One of the sixteen registers V0 to VF. -/
abbrev Register := Fin 16

/-- An address as an instruction can name it, of twelve bits. -/
abbrev ShortAddress := Fin 4096

/-- The sixteen bits of an instruction. -/
abbrev Word := Fin 65536

namespace Register

/-- V0. -/
def first : Register := 0

/-- VF, which several instructions set as a carry, borrow, shift or collision flag. -/
def flag : Register := 15

end Register

/-- When a skip instruction skips. -/
inductive Condition where
  /-- `3XKK`: VX is the byte. -/
  | byteIs (x : Register) (kk : UInt8)
  /-- `4XKK`: VX is not the byte. -/
  | byteIsNot (x : Register) (kk : UInt8)
  /-- `5XY0`: VX and VY agree. -/
  | same (x y : Register)
  /-- `9XY0`: VX and VY differ. -/
  | differ (x y : Register)
  /-- `EX9E`: the key whose number is in VX is down. -/
  | keyDown (x : Register)
  /-- `EXA1`: the key whose number is in VX is up. -/
  | keyUp (x : Register)
  deriving DecidableEq, Repr

/-- The functions of two registers in the family `8XY_`. -/
inductive Alu where
  | load
  | or
  | and
  | xor
  | add
  | sub
  | shiftRight
  | subReversed
  | shiftLeft
  deriving DecidableEq, Repr

/-- What the machine is told to do, with all operands. -/
inductive Instruction where
  /-- `00E0`: turn every pixel off. -/
  | clearScreen
  /-- `00EE`: return to the address on top of the stack. -/
  | ret
  /-- `1NNN`: go to an address. -/
  | jump (target : ShortAddress)
  /-- `2NNN`: go to an address and keep the way back on the stack. -/
  | call (target : ShortAddress)
  /-- `3XKK`, `4XKK`, `5XY0`, `9XY0`, `EX9E`, `EXA1`: leave out the next instruction if the
  condition holds. -/
  | skip (condition : Condition)
  /-- `6XKK`: put a byte into VX. -/
  | loadByte (x : Register) (kk : UInt8)
  /-- `7XKK`: add a byte to VX, without a carry. -/
  | addByte (x : Register) (kk : UInt8)
  /-- `8XY_`: combine VX and VY into VX. -/
  | alu (function : Alu) (x y : Register)
  /-- `ANNN`: set the index. -/
  | setIndex (address : ShortAddress)
  /-- `BNNN`: go to an address plus the value of a register. -/
  | jumpOffset (target : ShortAddress)
  /-- `CXKK`: put a random byte, masked by `kk`, into VX. -/
  | random (x : Register) (kk : UInt8)
  /-- `DXYN`: draw the `n` rows at the index at the position in VX and VY. -/
  | draw (x y : Register) (n : Fin 16)
  /-- `FX07`: read the delay timer into VX. -/
  | readDelay (x : Register)
  /-- `FX0A`: wait for a key press and put the key's number into VX. -/
  | awaitKey (x : Register)
  /-- `FX15`: set the delay timer from VX. -/
  | setDelay (x : Register)
  /-- `FX18`: set the sound timer from VX. -/
  | setSound (x : Register)
  /-- `FX1E`: add VX to the index. -/
  | addIndex (x : Register)
  /-- `FX29`: point the index at the glyph of the digit in VX. -/
  | pointGlyph (x : Register)
  /-- `FX33`: store the three decimal digits of VX at the index. -/
  | storeDecimal (x : Register)
  /-- `FX55`: store V0 to VX at the index. -/
  | storeRegisters (x : Register)
  /-- `FX65`: load V0 to VX from the index. -/
  | loadRegisters (x : Register)
  /-- A word that is none of the above. -/
  | unknown (word : Word)
  deriving DecidableEq, Repr

namespace Condition

/-- The condition's name in a listing. -/
def mnemonic : Condition → String
  | byteIs .. => "SE_BYTE"
  | byteIsNot .. => "SNE_BYTE"
  | same .. => "SE_REG"
  | differ .. => "SNE_REG"
  | keyDown .. => "SKP"
  | keyUp .. => "SKNP"

end Condition

namespace Alu

/-- The function's name in a listing. -/
def mnemonic : Alu → String
  | load => "LD_REG"
  | or => "OR"
  | and => "AND"
  | xor => "XOR"
  | add => "ADD_REG"
  | sub => "SUB"
  | shiftRight => "SHR"
  | subReversed => "SUBN"
  | shiftLeft => "SHL"

end Alu

namespace Instruction

/-- The instruction's name in a listing. -/
def mnemonic : Instruction → String
  | clearScreen => "CLS"
  | ret => "RET"
  | jump .. => "JP"
  | call .. => "CALL"
  | skip condition => condition.mnemonic
  | loadByte .. => "LD_BYTE"
  | addByte .. => "ADD_BYTE"
  | alu function .. => function.mnemonic
  | setIndex .. => "LD_I"
  | jumpOffset .. => "JP_V0"
  | random .. => "RND"
  | draw .. => "DRW"
  | readDelay .. => "LD_VX_DT"
  | awaitKey .. => "LD_VX_K"
  | setDelay .. => "LD_DT_VX"
  | setSound .. => "LD_ST_VX"
  | addIndex .. => "ADD_I"
  | pointGlyph .. => "LD_F"
  | storeDecimal .. => "LD_B"
  | storeRegisters .. => "LD_MEM_VX"
  | loadRegisters .. => "LD_VX_MEM"
  | unknown .. => "UNKNOWN"

/-- Whether the machine passes over the word. -/
def isUnknown : Instruction → Bool
  | unknown .. => true
  | _ => false

end Instruction
end Chip8
