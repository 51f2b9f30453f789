import Chip8.Instruction.Decode

/-!
# Instructions and their words

`Instruction.encode_decode` says that the word of a decoded instruction is the word it was decoded
from.  Here is the other half, `Instruction.decode_encode`: every instruction but `unknown` is
decoded from its own word.  With both, what a word decodes to can be read off its digits: calls by
`exists_decode_eq_call_iff`, and the instructions that move bytes at the index by
`span?_decode_eq_some_iff`.
-/

namespace Chip8
namespace Instruction

theorem ofInt_natCast {n : Nat} (h : n < 65536) : Word.ofInt n = ⟨n, h⟩ := by
  simp only [Word.ofInt, Fin.mk.injEq]
  omega

theorem decode_natCast {n : Nat} (h : n < 65536) : decode n = read n := by
  unfold decode
  congr 1
  omega

/-! ## Words with a digit, a register and a byte -/

section DigitByte

variable {digit low : Nat} {x : Register}

theorem digitByte_lt (hdigit : digit < 16) (hlow : low < 256) :
    digitByte digit x low < 65536 := by
  unfold digitByte
  omega

theorem family_digitByte (hdigit : digit < 16) (hlow : low < 256) :
    Word.family ⟨digitByte digit x low, digitByte_lt hdigit hlow⟩ = digit := by
  simp only [Word.family, digitByte]
  omega

theorem x_digitByte (hdigit : digit < 16) (hlow : low < 256) :
    Word.x ⟨digitByte digit x low, digitByte_lt hdigit hlow⟩ = x := by
  simp only [Word.x, digitByte, Fin.ext_iff]
  omega

theorem mod_digitByte (hlow : low < 256) : digitByte digit x low % 256 = low := by
  unfold digitByte
  omega

theorem kk_digitByte {byte : UInt8} (hdigit : digit < 16) :
    Word.kk ⟨digitByte digit x byte.toNat, digitByte_lt hdigit byte.toNat_lt⟩ = byte := by
  simp only [Word.kk, mod_digitByte byte.toNat_lt, UInt8.ofNat_toNat]

theorem y_digitByte {y : Register} {n : Nat} (hdigit : digit < 16) (hn : n < 16) :
    Word.y ⟨digitByte digit x (y * 16 + n), digitByte_lt hdigit (by omega)⟩ = y := by
  simp only [Word.y, digitByte, Fin.ext_iff]
  omega

theorem n_digitByte {y : Register} {n : Nat} (hdigit : digit < 16) (hn : n < 16) :
    Word.n ⟨digitByte digit x (y * 16 + n), digitByte_lt hdigit (by omega)⟩ = ⟨n, hn⟩ := by
  simp only [Word.n, digitByte, Fin.ext_iff]
  omega

end DigitByte

/-! ## Decoding the word of an instruction -/

theorem code_lt (function : Alu) : function.code < 16 := by
  cases function <;> decide

theorem encode_lt (i : Instruction) : i.encode < 65536 := by
  cases i with
  | skip condition =>
    cases condition with
    | byteIs x kk => exact digitByte_lt (by decide) kk.toNat_lt
    | byteIsNot x kk => exact digitByte_lt (by decide) kk.toNat_lt
    | same x y => exact digitByte_lt (by decide) (by omega)
    | differ x y => exact digitByte_lt (by decide) (by omega)
    | keyDown x => exact digitByte_lt (by decide) (by decide)
    | keyUp x => exact digitByte_lt (by decide) (by decide)
  | loadByte x kk => exact digitByte_lt (by decide) kk.toNat_lt
  | addByte x kk => exact digitByte_lt (by decide) kk.toNat_lt
  | random x kk => exact digitByte_lt (by decide) kk.toNat_lt
  | alu function x y =>
    have := code_lt function
    exact digitByte_lt (by decide) (by omega)
  | draw x y n => exact digitByte_lt (by decide) (by omega)
  | _ => simp only [encode, digitByte]; omega

section Address

variable (digit : Nat) (target : ShortAddress) (h : digit * 4096 + target.val < 65536)

theorem family_address : Word.family ⟨digit * 4096 + target.val, h⟩ = digit := by
  simp only [Word.family]
  omega

theorem nnn_address : Word.nnn ⟨digit * 4096 + target.val, h⟩ = target := by
  simp only [Word.nnn, Fin.ext_iff]
  omega

end Address

/-- Every instruction is decoded from its own word. -/
theorem decode_encode {i : Instruction} (h : i.isUnknown = false) : decode i.encode = i := by
  have hbyte (kk : UInt8) : kk.toNat < 256 := kk.toNat_lt
  rw [decode_natCast (encode_lt i), read, ofInt_natCast (encode_lt i)]
  cases i with
  | clearScreen => rfl
  | ret => rfl
  | unknown word => cases h
  -- An address: the leading digit picks the branch and the rest is the operand.
  | jump target => simp only [encode, family_address 1, nnn_address 1]
  | call target => simp only [encode, family_address 2, nnn_address 2]
  | setIndex address => simp only [encode, family_address 10, nnn_address 10]
  | jumpOffset target => simp only [encode, family_address 11, nnn_address 11]
  -- A register and a byte.
  | loadByte x kk | addByte x kk | random x kk =>
    simp (disch := simp [hbyte]) only [encode, family_digitByte, x_digitByte, kk_digitByte]
  | alu function x y =>
    have hcode := code_lt function
    simp (disch := omega) only [encode, family_digitByte, x_digitByte, y_digitByte, n_digitByte,
      Alu.ofCode?_code]
  | draw x y n =>
    simp (disch := omega) only [encode, family_digitByte, x_digitByte, y_digitByte, n_digitByte]
  | skip condition =>
    cases condition with
    | byteIs x kk | byteIsNot x kk =>
      simp (disch := simp [hbyte]) only [encode, family_digitByte, x_digitByte, kk_digitByte]
    | same x y =>
      have hword : encode (skip (.same x y)) = digitByte 5 x (y * 16 + 0) := rfl
      simp (disch := omega) only [hword, family_digitByte, x_digitByte, y_digitByte, n_digitByte]
      rfl
    | differ x y =>
      have hword : encode (skip (.differ x y)) = digitByte 9 x (y * 16 + 0) := rfl
      simp (disch := omega) only [hword, family_digitByte, x_digitByte, y_digitByte, n_digitByte]
      rfl
    | keyDown x | keyUp x =>
      simp (disch := omega) only [encode, family_digitByte, ofKeyWord, mod_digitByte, x_digitByte]
  -- The family of which the low byte tells the members apart.
  | _ =>
    simp (disch := omega) only [encode, family_digitByte, ofMachineWord, mod_digitByte,
      x_digitByte]

/-! ## Reading a word by its digits -/

theorem decode_eq_of_encode {w : Word} {i : Instruction} (h : i.isUnknown = false)
    (hw : i.encode = w.val) : decode w.val = i := by
  rw [← hw]
  exact decode_encode h

/-- The word of what a word decodes to. -/
theorem encode_decode_word (w : Word) : (decode w.val).encode = w.val := by
  have hw := encode_decode w.val
  omega

theorem exists_decode_eq_call_iff {w : Word} :
    (∃ target, decode w.val = call target) ↔ w.val / 0x1000 = 0x2 := by
  constructor
  · rintro ⟨target, hi⟩
    have hw := encode_decode_word w
    rw [hi, encode] at hw
    omega
  · intro hdigit
    refine ⟨w.nnn, decode_eq_of_encode rfl ?_⟩
    simp only [encode, Word.nnn]
    omega

/-- How many bytes at the index an instruction moves, for those that move any. -/
def span? : Instruction → Option Nat
  | draw _ _ n => some n.val
  | storeDecimal _ => some 3
  | storeRegisters x => some (x.val + 1)
  | loadRegisters x => some (x.val + 1)
  | _ => none

/-- Sprites are read by `DXYN`, digits are stored by `FX33` and registers moved by `FX55` and
`FX65`. -/
theorem span?_decode_eq_some_iff {w : Word} {n : Nat} :
    (decode w.val).span? = some n ↔
      (w.val / 0x1000 = 0xD ∧ n = w.val % 0x10) ∨
      (w.val / 0x1000 = 0xF ∧ w.val % 0x100 = 0x33 ∧ n = 3) ∨
      (w.val / 0x1000 = 0xF ∧ (w.val % 0x100 = 0x55 ∨ w.val % 0x100 = 0x65) ∧
        n = w.val / 0x100 % 0x10 + 1) := by
  constructor
  · intro hspan
    have hw := encode_decode_word w
    cases hi : decode w.val with
    | draw x y rows =>
      simp only [hi, encode, digitByte, span?, Option.some.injEq] at hw hspan
      omega
    | storeDecimal x =>
      simp only [hi, encode, digitByte, span?, Option.some.injEq] at hw hspan
      omega
    | storeRegisters x =>
      simp only [hi, encode, digitByte, span?, Option.some.injEq] at hw hspan
      omega
    | loadRegisters x =>
      simp only [hi, encode, digitByte, span?, Option.some.injEq] at hw hspan
      omega
    | _ => simp [hi, span?] at hspan
  · rintro (⟨hdigit, rfl⟩ | ⟨hdigit, hlow, rfl⟩ | ⟨hdigit, hlow | hlow, rfl⟩)
    · have hi : decode w.val = draw w.x w.y w.n := by
        refine decode_eq_of_encode rfl ?_
        simp only [encode, digitByte, Word.x, Word.y, Word.n]
        omega
      rw [hi]
      rfl
    · have hi : decode w.val = storeDecimal w.x := by
        refine decode_eq_of_encode rfl ?_
        simp only [encode, digitByte, Word.x]
        omega
      rw [hi]
      rfl
    · have hi : decode w.val = storeRegisters w.x := by
        refine decode_eq_of_encode rfl ?_
        simp only [encode, digitByte, Word.x]
        omega
      rw [hi]
      rfl
    · have hi : decode w.val = loadRegisters w.x := by
        refine decode_eq_of_encode rfl ?_
        simp only [encode, digitByte, Word.x]
        omega
      rw [hi]
      rfl

end Instruction
end Chip8
