import Chip8.Proofs.Machine.Step

/-!
# Reading a number and decoding its low bits

`Instruction.read` takes an integer as it is, and `Instruction.decode` cuts it to its low sixteen
bits first.  For nearly every integer this makes no difference, because `read` goes by digits that
lie within these bits: `Word.family_ofInt`, `Word.n_ofInt` and `Word.kk_ofInt` find them in the
two's complement of the integer by shifts and masks.  Only `00E0` and `00EE` are recognised by the
whole number.

So all that `read` knows of an integer is its low sixteen bits and whether it is one of these two
words (`Instruction.read_congr`), and the integers of which `read` and `decode` make different
instructions are just those that become one of the two words by the cut
(`Instruction.read_agrees_but_on_two_words`).  None of them is a word that a machine can fetch.
-/

namespace Chip8
namespace Word

/-! ## The digits of an integer -/

section OfInt

variable (o : Int)

/-- The low bits of the word of an integer are those of the integer. -/
theorem mod_ofInt (k : Nat) (h : k ≤ 16) :
    (((ofInt o).val % Nat.pow 2 k : Nat) : Int) = Bits.and o (Nat.pow 2 k - 1 : Nat) := by
  have hword : ((ofInt o).val : Int) = o % 65536 := by
    simp only [ofInt]
    omega
  have hdvd : ((Nat.pow 2 k : Nat) : Int) ∣ 65536 := Int.natCast_dvd_natCast.2 (Nat.pow_dvd_pow 2 h)
  rw [Bits.and_two_pow_sub_one, Int.natCast_emod, hword, Int.emod_emod_of_dvd o hdvd]

theorem n_ofInt : ((ofInt o).n.val : Int) = Bits.and o 0xF :=
  mod_ofInt o 4 (by decide)

theorem kk_ofInt : ((ofInt o).kk.toNat : Int) = Bits.and o 0xFF := by
  rw [Instruction.toNat_kk]
  exact mod_ofInt o 8 (by decide)

theorem family_ofInt : ((ofInt o).family : Int) = Bits.and (o.shiftRight 12) 0xF := by
  have hmask : Bits.and (o.shiftRight 12) 0xF = o.shiftRight 12 % 16 :=
    Bits.and_two_pow_sub_one (o.shiftRight 12) 4
  have hshift : o.shiftRight 12 = o / 4096 := Int.shiftRight_eq_div_pow o 12
  rw [hmask, hshift]
  simp only [family, ofInt]
  omega

end OfInt
end Word

namespace Instruction

/-! ## What a reading goes by -/

/-- An integer is read by its low sixteen bits, and by whether it is `00E0` or `00EE`. -/
theorem read_congr {first second : Int} (hlow : first % 65536 = second % 65536)
    (hclear : first = 0x00E0 ↔ second = 0x00E0) (hret : first = 0x00EE ↔ second = 0x00EE) :
    read first = read second := by
  have hword : Word.ofInt first = Word.ofInt second := by
    simp only [Word.ofInt, hlow]
  simp only [read, hword, hclear, hret]

theorem decode_eq_read_and (o : Int) : decode o = read (Bits.and o 0xFFFF) := by
  have hmask : Bits.and o 0xFFFF = o % 65536 := Bits.and_two_pow_sub_one o 16
  rw [decode, hmask]

/-- With the leading digit 0 no integer outside of the words is read as an instruction. -/
theorem read_eq_unknown {o : Int} (hout : o < 0 ∨ 0xFFFF < o) (hdigit : o % 65536 < 0x1000) :
    read o = unknown (Word.ofInt o) := by
  have hfamily : (Word.ofInt o).family = 0x0 := by
    simp only [Word.family, Word.ofInt]
    omega
  have hclear : o ≠ 0x00E0 := by omega
  have hret : o ≠ 0x00EE := by omega
  simp only [read, hfamily, hclear, hret, if_false]

/-! ## Where reading and decoding differ -/

/-- The integers outside of the words that the cut to sixteen bits turns into `00E0` or `00EE`. -/
def ReadApart (o : Int) : Prop :=
  (o < 0 ∨ 0xFFFF < o) ∧ (o % 65536 = 0x00E0 ∨ o % 65536 = 0x00EE)

instance (o : Int) : Decidable (ReadApart o) :=
  inferInstanceAs (Decidable (_ ∧ _))

theorem read_eq_decode {o : Int} (h : ¬ ReadApart o) : read o = decode o := by
  unfold ReadApart at h
  exact read_congr (by omega) (by omega) (by omega)

/-- What the cut turns into `00E0` or `00EE` is no instruction as it stands. -/
theorem names_of_readApart {o : Int} (h : ReadApart o) :
    (read o).mnemonic = "UNKNOWN" ∧
      (decode o).mnemonic = if o % 65536 = 0x00E0 then "CLS" else "RET" := by
  obtain ⟨hout, hcut⟩ := h
  constructor
  · rw [read_eq_unknown hout (by omega)]
    rfl
  · unfold decode
    rcases hcut with hclear | hret
    · rw [hclear]
      rfl
    · rw [hret]
      rfl

/-- The leading digit, the last digit and the low byte by which an integer is read are cut out of
its two's complement, and decoding is reading with all but the low sixteen bits masked.  What an
integer is read as and what it is decoded to have the same name, and then are the same instruction,
unless the integer lies outside of the words and has `00E0` or `00EE` for its low sixteen bits.  In
that case it is read as unknown and decoded to the one or the other.  A word that a machine fetches
is read as it is decoded. -/
theorem read_agrees_but_on_two_words :
    (∀ o : Int,
      let word := Word.ofInt o
      (word.family : Int) = Bits.and (o.shiftRight 12) 0xF ∧
      (word.n.val : Int) = Bits.and o 0xF ∧
      (word.kk.toNat : Int) = Bits.and o 0xFF ∧
      decode o = read (Bits.and o 0xFFFF) ∧
      ((read o).mnemonic = (decode o).mnemonic ↔ ¬ ReadApart o) ∧
      (¬ ReadApart o → read o = decode o) ∧
      (ReadApart o → (read o).mnemonic = "UNKNOWN" ∧
        (decode o).mnemonic = if o % 65536 = 0x00E0 then "CLS" else "RET")) ∧
    (∀ (machine behind : Machine) (word : Word), machine.fetch = .ok (word, behind) →
      read word.val = decode word.val) := by
  constructor
  · intro o word
    refine ⟨Word.family_ofInt o, Word.n_ofInt o, Word.kk_ofInt o, decode_eq_read_and o, ?_,
      read_eq_decode, names_of_readApart⟩
    constructor
    · intro hsame hapart
      obtain ⟨hread, hdecode⟩ := names_of_readApart hapart
      rw [hread, hdecode] at hsame
      split at hsame <;> simp at hsame
    · intro hagree
      rw [read_eq_decode hagree]
  · intro machine behind word _
    exact read_eq_decode fun ⟨hout, _⟩ => by omega

/-- A number below zero that is `00E0` in its low sixteen bits, one above the words that is no such
word there, and a machine whose next word is `00EE`. -/
theorem read_agrees_but_on_two_words_stretched :
    let machine : Machine :=
      { cpu := Cpu.initial
        memory := Memory.blank.store 0x200 [0x00, 0xEE]
        screen := Screen.dark
        keypad := .released
        random := ⟨Vector.replicate 624 0, 0⟩ }
    ReadApart (-0xFF20) ∧ (read (-0xFF20)).mnemonic = "UNKNOWN" ∧
      (decode (-0xFF20)).mnemonic = "CLS" ∧
      ¬ ReadApart 0x16A42 ∧ read 0x16A42 = decode 0x16A42 ∧
      machine.fetch = .ok (0x00EE, machine.advance) ∧ read 0x00EE = decode 0x00EE := by
  intro machine
  have hapart : ReadApart (-0xFF20) := by decide
  have hother : ¬ ReadApart 0x16A42 := by decide
  have hword : machine.nextWord = 0x00EE := by decide +kernel
  have hfetch : machine.fetch = .ok (0x00EE, machine.advance) := by
    rw [← hword]
    exact Machine.fetch_eq_ok (by decide)
  obtain ⟨hnumbers, hfetched⟩ := read_agrees_but_on_two_words
  obtain ⟨-, -, -, -, -, -, hnames⟩ := hnumbers (-0xFF20)
  obtain ⟨-, -, -, -, -, hagree, -⟩ := hnumbers 0x16A42
  obtain ⟨hread, hdecode⟩ := hnames hapart
  exact ⟨hapart, hread, hdecode, hother, hagree hother, hfetch, hfetched _ _ _ hfetch⟩

end Instruction
end Chip8
