import Chip8.Proofs.Instruction.Encoding

/-!
# The format of instructions

Of every instruction the format fixes some of the four hexadecimal digits of its words, and the
other digits are those of its operands.  The table `Instruction.formats` has a row for each
instruction: its name, what stands in the four places of its words, and the instruction that they
mean.  A row is filled with operands by writing their digits into the places (`Format.fill`).

Decoding is just this format (`Instruction.decode_exactly_format`).  A word is decoded to what a row
means with certain operands if it is the row filled with them, no word fills two rows, and what
fills none is unknown.  The table is gone through row by row for four facts only, of which
`fill_eq_encode` ties it to the words of instructions; the rest follows from `decode_encode`.
-/

namespace Chip8

/-- What can be read off any word, whichever of it an instruction uses: two registers, a sprite
height, a byte and an address. -/
structure Operands where
  x : Register
  y : Register
  n : Fin 16
  kk : UInt8
  nnn : ShortAddress

/-- The operands that stand in a word. -/
def Word.operands (w : Word) : Operands :=
  ⟨w.x, w.y, w.n, w.kk, w.nnn⟩

namespace Instruction

/-- The operands that stand in the word of an instruction. -/
def operands (i : Instruction) : Operands :=
  Word.operands ⟨i.encode, encode_lt i⟩

/-- What stands in a place of a word: a digit that is always the same, or a digit of an operand. -/
inductive Place where
  | fixed (digit : Nat)
  | x
  | y
  | n
  /-- A digit of the byte, which takes two places. -/
  | kk
  /-- A digit of the address, which takes three places. -/
  | nnn

namespace Place

/-- The number of which a place holds a digit. -/
def number (v : Operands) : Place → Nat
  | fixed digit => digit
  | x => v.x
  | y => v.y
  | n => v.n
  | kk => v.kk.toNat
  | nnn => v.nnn

/-- The digit in a place that has a number of places to its right. -/
def digit (v : Operands) (right : Nat) : Place → Nat
  | kk => number v kk / Nat.pow 16 right % 16
  | nnn => number v nnn / Nat.pow 16 right % 16
  | place => number v place

/-- The number that is written in some places. -/
def fill (v : Operands) : List Place → Nat
  | [] => 0
  | place :: rest => place.digit v rest.length * Nat.pow 16 rest.length + fill v rest

end Place

/-- The words of an instruction: its name, their places from left to right, and the instruction that
they mean. -/
structure Format where
  name : String
  places : List Place
  instruction : Operands → Instruction

/-- The word with some operands in its places. -/
def Format.fill (format : Format) (v : Operands) : Nat :=
  Place.fill v format.places

/-- The format of every instruction. -/
def formats : List Format :=
  [⟨"CLS", [.fixed 0x0, .fixed 0x0, .fixed 0xE, .fixed 0x0], fun _ => clearScreen⟩,
   ⟨"RET", [.fixed 0x0, .fixed 0x0, .fixed 0xE, .fixed 0xE], fun _ => ret⟩,
   ⟨"JP", [.fixed 0x1, .nnn, .nnn, .nnn], fun v => jump v.nnn⟩,
   ⟨"CALL", [.fixed 0x2, .nnn, .nnn, .nnn], fun v => call v.nnn⟩,
   ⟨"SE_BYTE", [.fixed 0x3, .x, .kk, .kk], fun v => skip (.byteIs v.x v.kk)⟩,
   ⟨"SNE_BYTE", [.fixed 0x4, .x, .kk, .kk], fun v => skip (.byteIsNot v.x v.kk)⟩,
   ⟨"SE_REG", [.fixed 0x5, .x, .y, .fixed 0x0], fun v => skip (.same v.x v.y)⟩,
   ⟨"LD_BYTE", [.fixed 0x6, .x, .kk, .kk], fun v => loadByte v.x v.kk⟩,
   ⟨"ADD_BYTE", [.fixed 0x7, .x, .kk, .kk], fun v => addByte v.x v.kk⟩,
   ⟨"LD_REG", [.fixed 0x8, .x, .y, .fixed 0x0], fun v => alu .load v.x v.y⟩,
   ⟨"OR", [.fixed 0x8, .x, .y, .fixed 0x1], fun v => alu .or v.x v.y⟩,
   ⟨"AND", [.fixed 0x8, .x, .y, .fixed 0x2], fun v => alu .and v.x v.y⟩,
   ⟨"XOR", [.fixed 0x8, .x, .y, .fixed 0x3], fun v => alu .xor v.x v.y⟩,
   ⟨"ADD_REG", [.fixed 0x8, .x, .y, .fixed 0x4], fun v => alu .add v.x v.y⟩,
   ⟨"SUB", [.fixed 0x8, .x, .y, .fixed 0x5], fun v => alu .sub v.x v.y⟩,
   ⟨"SHR", [.fixed 0x8, .x, .y, .fixed 0x6], fun v => alu .shiftRight v.x v.y⟩,
   ⟨"SUBN", [.fixed 0x8, .x, .y, .fixed 0x7], fun v => alu .subReversed v.x v.y⟩,
   ⟨"SHL", [.fixed 0x8, .x, .y, .fixed 0xE], fun v => alu .shiftLeft v.x v.y⟩,
   ⟨"SNE_REG", [.fixed 0x9, .x, .y, .fixed 0x0], fun v => skip (.differ v.x v.y)⟩,
   ⟨"LD_I", [.fixed 0xA, .nnn, .nnn, .nnn], fun v => setIndex v.nnn⟩,
   ⟨"JP_V0", [.fixed 0xB, .nnn, .nnn, .nnn], fun v => jumpOffset v.nnn⟩,
   ⟨"RND", [.fixed 0xC, .x, .kk, .kk], fun v => random v.x v.kk⟩,
   ⟨"DRW", [.fixed 0xD, .x, .y, .n], fun v => draw v.x v.y v.n⟩,
   ⟨"SKP", [.fixed 0xE, .x, .fixed 0x9, .fixed 0xE], fun v => skip (.keyDown v.x)⟩,
   ⟨"SKNP", [.fixed 0xE, .x, .fixed 0xA, .fixed 0x1], fun v => skip (.keyUp v.x)⟩,
   ⟨"LD_VX_DT", [.fixed 0xF, .x, .fixed 0x0, .fixed 0x7], fun v => readDelay v.x⟩,
   ⟨"LD_VX_K", [.fixed 0xF, .x, .fixed 0x0, .fixed 0xA], fun v => awaitKey v.x⟩,
   ⟨"LD_DT_VX", [.fixed 0xF, .x, .fixed 0x1, .fixed 0x5], fun v => setDelay v.x⟩,
   ⟨"LD_ST_VX", [.fixed 0xF, .x, .fixed 0x1, .fixed 0x8], fun v => setSound v.x⟩,
   ⟨"ADD_I", [.fixed 0xF, .x, .fixed 0x1, .fixed 0xE], fun v => addIndex v.x⟩,
   ⟨"LD_F", [.fixed 0xF, .x, .fixed 0x2, .fixed 0x9], fun v => pointGlyph v.x⟩,
   ⟨"LD_B", [.fixed 0xF, .x, .fixed 0x3, .fixed 0x3], fun v => storeDecimal v.x⟩,
   ⟨"LD_MEM_VX", [.fixed 0xF, .x, .fixed 0x5, .fixed 0x5], fun v => storeRegisters v.x⟩,
   ⟨"LD_VX_MEM", [.fixed 0xF, .x, .fixed 0x6, .fixed 0x5], fun v => loadRegisters v.x⟩]

/-! ## Row by row -/

/-- A filled row is the word of the instruction that it means. -/
theorem fill_eq_encode :
    ∀ format ∈ formats, ∀ v, format.fill v = (format.instruction v).encode := by
  simp only [formats, List.forall_mem_cons, List.not_mem_nil, false_imp_iff, implies_true, and_true]
  and_intros
  all_goals
    intro v
    have hkk := v.kk.toNat_lt
    simp only [Format.fill, Place.fill, List.length_cons, List.length_nil, Place.digit,
      Place.number, Nat.pow_eq, encode, digitByte, Alu.code]
  all_goals omega

/-- The operands of a row stand in its words. -/
theorem number_operands :
    ∀ format ∈ formats, ∀ v, ∀ place ∈ format.places,
      place.number (format.instruction v).operands = place.number v := by
  simp only [formats, List.forall_mem_cons, List.not_mem_nil, false_imp_iff, implies_true, and_true]
  and_intros
  all_goals
    intro v
    have hkk := v.kk.toNat_lt
    simp only [Place.number, operands, Word.operands, Word.x, Word.y, Word.n, toNat_kk, Word.nnn,
      encode, digitByte, Alu.code, and_true, true_and]
  all_goals omega

theorem isUnknown_instruction :
    ∀ format ∈ formats, ∀ v, (format.instruction v).isUnknown = false := by
  simp only [formats, List.forall_mem_cons, List.not_mem_nil, false_imp_iff, implies_true, and_true]
  and_intros
  all_goals
    intro v
    rfl

theorem mnemonic_instruction :
    ∀ format ∈ formats, ∀ v, (format.instruction v).mnemonic = format.name := by
  simp only [formats, List.forall_mem_cons, List.not_mem_nil, false_imp_iff, implies_true, and_true]
  and_intros
  all_goals
    intro v
    rfl

theorem nodup_names : (formats.map Format.name).Nodup := by
  decide

/-- Every instruction has its row. -/
theorem exists_format {i : Instruction} (h : i.isUnknown = false) :
    ∃ format ∈ formats, ∃ v, format.instruction v = i := by
  have hrow (row : Nat) (hlt : row < 34) (v : Operands)
      (hi : (formats.get ⟨row, hlt⟩).instruction v = i) :
      ∃ format ∈ formats, ∃ v, format.instruction v = i :=
    ⟨_, List.get_mem formats ⟨row, hlt⟩, v, hi⟩
  cases i with
  | unknown word => cases h
  | clearScreen => exact hrow 0 (by decide) ⟨0, 0, 0, 0, 0⟩ rfl
  | ret => exact hrow 1 (by decide) ⟨0, 0, 0, 0, 0⟩ rfl
  | jump target => exact hrow 2 (by decide) ⟨0, 0, 0, 0, target⟩ rfl
  | call target => exact hrow 3 (by decide) ⟨0, 0, 0, 0, target⟩ rfl
  | skip condition =>
    cases condition with
    | byteIs x kk => exact hrow 4 (by decide) ⟨x, 0, 0, kk, 0⟩ rfl
    | byteIsNot x kk => exact hrow 5 (by decide) ⟨x, 0, 0, kk, 0⟩ rfl
    | same x y => exact hrow 6 (by decide) ⟨x, y, 0, 0, 0⟩ rfl
    | differ x y => exact hrow 18 (by decide) ⟨x, y, 0, 0, 0⟩ rfl
    | keyDown x => exact hrow 23 (by decide) ⟨x, 0, 0, 0, 0⟩ rfl
    | keyUp x => exact hrow 24 (by decide) ⟨x, 0, 0, 0, 0⟩ rfl
  | loadByte x kk => exact hrow 7 (by decide) ⟨x, 0, 0, kk, 0⟩ rfl
  | addByte x kk => exact hrow 8 (by decide) ⟨x, 0, 0, kk, 0⟩ rfl
  | alu function x y =>
    cases function with
    | load => exact hrow 9 (by decide) ⟨x, y, 0, 0, 0⟩ rfl
    | or => exact hrow 10 (by decide) ⟨x, y, 0, 0, 0⟩ rfl
    | and => exact hrow 11 (by decide) ⟨x, y, 0, 0, 0⟩ rfl
    | xor => exact hrow 12 (by decide) ⟨x, y, 0, 0, 0⟩ rfl
    | add => exact hrow 13 (by decide) ⟨x, y, 0, 0, 0⟩ rfl
    | sub => exact hrow 14 (by decide) ⟨x, y, 0, 0, 0⟩ rfl
    | shiftRight => exact hrow 15 (by decide) ⟨x, y, 0, 0, 0⟩ rfl
    | subReversed => exact hrow 16 (by decide) ⟨x, y, 0, 0, 0⟩ rfl
    | shiftLeft => exact hrow 17 (by decide) ⟨x, y, 0, 0, 0⟩ rfl
  | setIndex address => exact hrow 19 (by decide) ⟨0, 0, 0, 0, address⟩ rfl
  | jumpOffset target => exact hrow 20 (by decide) ⟨0, 0, 0, 0, target⟩ rfl
  | random x kk => exact hrow 21 (by decide) ⟨x, 0, 0, kk, 0⟩ rfl
  | draw x y n => exact hrow 22 (by decide) ⟨x, y, n, 0, 0⟩ rfl
  | readDelay x => exact hrow 25 (by decide) ⟨x, 0, 0, 0, 0⟩ rfl
  | awaitKey x => exact hrow 26 (by decide) ⟨x, 0, 0, 0, 0⟩ rfl
  | setDelay x => exact hrow 27 (by decide) ⟨x, 0, 0, 0, 0⟩ rfl
  | setSound x => exact hrow 28 (by decide) ⟨x, 0, 0, 0, 0⟩ rfl
  | addIndex x => exact hrow 29 (by decide) ⟨x, 0, 0, 0, 0⟩ rfl
  | pointGlyph x => exact hrow 30 (by decide) ⟨x, 0, 0, 0, 0⟩ rfl
  | storeDecimal x => exact hrow 31 (by decide) ⟨x, 0, 0, 0, 0⟩ rfl
  | storeRegisters x => exact hrow 32 (by decide) ⟨x, 0, 0, 0, 0⟩ rfl
  | loadRegisters x => exact hrow 33 (by decide) ⟨x, 0, 0, 0, 0⟩ rfl

/-! ## Filling and decoding -/

section

variable {format : Format} (hformat : format ∈ formats) (v : Operands)
include hformat

theorem decode_fill : decode (format.fill v) = format.instruction v := by
  rw [fill_eq_encode format hformat v]
  exact decode_encode (isUnknown_instruction format hformat v)

/-- What is filled in depends on the numbers alone of which the places hold digits. -/
theorem fill_operands : format.fill (format.instruction v).operands = format.fill v := by
  have hnumber := number_operands format hformat v
  unfold Format.fill
  generalize (format.instruction v).operands = read at hnumber
  generalize format.places = places at hnumber
  induction places with
  | nil => rfl
  | cons place rest ih =>
    obtain ⟨hplace, hrest⟩ := List.forall_mem_cons.1 hnumber
    have hdigit : place.digit read rest.length = place.digit v rest.length := by
      unfold Place.digit
      cases place with
      | kk | nnn => simp only [hplace]
      | _ => exact hplace
    rw [Place.fill, Place.fill, hdigit, ih hrest]

/-- An instruction is what its row means with the operands that stand in its word. -/
theorem instruction_operands :
    format.instruction (format.instruction v).operands = format.instruction v := by
  rw [← decode_fill hformat, fill_operands hformat, decode_fill hformat]

end

theorem encode_decode_toNat (o : Int) : (decode o).encode = (o % 65536).toNat := by
  have hword := encode_decode o
  omega

theorem decode_toNat_emod (o : Int) : decode (o % 65536).toNat = decode o := by
  unfold decode
  congr 1
  omega

/-- What a word is decoded to is what the row means that the word fills. -/
theorem exists_fill_eq {o : Int} (h : (decode o).isUnknown = false) :
    ∃ format ∈ formats, (decode o).mnemonic = format.name ∧
      decode o = format.instruction (decode o).operands ∧
      format.fill (decode o).operands = (o % 65536).toNat := by
  obtain ⟨format, hformat, v, hv⟩ := exists_format h
  have hword := encode_decode_toNat o
  rw [← hv] at hword ⊢
  refine ⟨format, hformat, mnemonic_instruction format hformat v,
    (instruction_operands hformat v).symm, ?_⟩
  rw [fill_operands hformat, fill_eq_encode format hformat, hword]

theorem isUnknown_decode_iff {o : Int} :
    (decode o).isUnknown = true ↔ ∀ format ∈ formats, ∀ v, format.fill v ≠ (o % 65536).toNat := by
  constructor
  · intro hunknown format hformat v hfill
    have hdecode : decode o = format.instruction v := by
      rw [← decode_toNat_emod, ← hfill, decode_fill hformat]
    rw [hdecode, isUnknown_instruction format hformat v] at hunknown
    cases hunknown
  · intro hnone
    cases hknown : (decode o).isUnknown with
    | true => rfl
    | false =>
      obtain ⟨format, hformat, -, -, hfill⟩ := exists_fill_eq hknown
      exact absurd hfill (hnone format hformat _)

/-- No word fills two rows. -/
theorem pairwise_fill_ne :
    formats.Pairwise fun first second => ∀ v v', first.fill v ≠ second.fill v' := by
  have hnames : formats.Pairwise fun first second => first.name ≠ second.name :=
    List.pairwise_map.1 nodup_names
  refine hnames.imp_of_mem fun hfirst hsecond hname v v' hfill => hname ?_
  rw [← mnemonic_instruction _ hfirst v, ← mnemonic_instruction _ hsecond v', ← decode_fill hfirst,
    ← decode_fill hsecond, hfill]

/-- The fields of a decoded word, for any integer. -/
theorem fields_decode (o : Int) :
    let v := (decode o).operands
    (decode o).fields = [(o % 65536).toNat, v.x.val, v.y.val, v.n.val, v.kk.toNat, v.nnn.val] := by
  have hword := encode_decode_toNat o
  simp only [fields, operands, Word.operands, Word.x, Word.y, Word.n, toNat_kk, Word.nnn, hword]

/-- There are thirty-four formats with names of their own.  Any integer is decoded by its low
sixteen bits, which are the digits of the operands with a leading digit in front.  Unless it is
unknown, what it is decoded to is what a format means with these operands, and the format filled
with them is the word; it is unknown if no format can be filled to be the word.  A format that is
filled with any operands is decoded to what it means, with these operands.  No word fills two
formats. -/
theorem decode_exactly_format :
    formats.length = 34 ∧ (formats.map Format.name).Nodup ∧
    (∀ o : Int,
      let i := decode o
      let v := i.operands
      let w := (o % 65536).toNat
      i.fields = [w, v.x.val, v.y.val, v.n.val, v.kk.toNat, v.nnn.val] ∧
      w = 0x1000 * (w / 0x1000) + v.nnn ∧ v.nnn.val = 0x100 * v.x + v.kk.toNat ∧
      v.kk.toNat = 0x10 * v.y + v.n ∧
      (i.isUnknown = false → ∃ format ∈ formats,
        i.mnemonic = format.name ∧ i = format.instruction v ∧ format.fill v = w) ∧
      (i.isUnknown = true ↔ ∀ format ∈ formats, ∀ other, format.fill other ≠ w)) ∧
    (∀ format ∈ formats, ∀ v,
      let i := decode (format.fill v)
      i.isUnknown = false ∧ i.mnemonic = format.name ∧ i = format.instruction v ∧
        ∀ place ∈ format.places, place.number i.operands = place.number v) ∧
    formats.Pairwise fun first second => ∀ v v', first.fill v ≠ second.fill v' := by
  refine ⟨rfl, nodup_names, fun o => ?_, fun format hformat v => ?_, pairwise_fill_ne⟩
  · intro i v w
    have hfields := fields_decode o
    have hword : i.encode = w := encode_decode_toNat o
    have hnnn : v.nnn.val = w % 4096 := congrArg (· % 4096) hword
    have hx : v.x.val = w / 256 % 16 := congrArg (· / 256 % 16) hword
    have hy : v.y.val = w / 16 % 16 := congrArg (· / 16 % 16) hword
    have hn : v.n.val = w % 16 := congrArg (· % 16) hword
    have hkk : v.kk.toNat = w % 256 := (toNat_kk _).trans (congrArg (· % 256) hword)
    exact ⟨hfields, by omega, by omega, by omega, exists_fill_eq, isUnknown_decode_iff⟩
  · intro i
    have hi : i = format.instruction v := decode_fill hformat v
    rw [hi]
    exact ⟨isUnknown_instruction format hformat v, mnemonic_instruction format hformat v, rfl,
      number_operands format hformat v⟩

/-- A number below zero whose low sixteen bits are a sum of two registers. -/
theorem decode_exactly_format_below_zero :
    (decode (-0x7AFC)).isUnknown = false ∧
      ∃ format ∈ formats, (decode (-0x7AFC)).mnemonic = format.name ∧
        format.fill (decode (-0x7AFC)).operands = 0x8504 := by
  have hknown : (decode (-0x7AFC)).isUnknown = false := by decide
  obtain ⟨-, -, hread, -⟩ := decode_exactly_format
  obtain ⟨-, -, -, -, hfills, -⟩ := hread (-0x7AFC)
  obtain ⟨format, hformat, hname, -, hfill⟩ := hfills hknown
  exact ⟨hknown, format, hformat, hname, hfill⟩

end Instruction
end Chip8
