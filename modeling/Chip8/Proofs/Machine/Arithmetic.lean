import Chip8.Proofs.Machine.Bounds
import Chip8.Proofs.Machine.Footprint

/-!
# Arithmetic on registers

The functions `8XY_` read two registers, write one and some of them set VF besides.  The three may
be the same register in any combination.  What comes of it is that both operands are read first,
that the result is written to VX and that a flag is written to VF last (`Cpu.get_combine`).

On bytes, sums, differences and shifts leave a byte and a flag which together hold the exact number:
`Alu.Balances` has the equation of each.  A byte and a flag are all that an equation determines
(`Alu.Balances.unique`), so that the flag is known even where it replaces the result, in VF.

`Machine.register_arithmetic` says so of the words of these functions, with what the three bitwise
functions and the addition of a byte do.
-/

namespace Chip8

/-- The equation between the operands `a` and `b` of a function and the byte and the flag that it
leaves. -/
inductive Alu.Balances (dialect : Dialect) (a b result flag : Int) : Alu → Prop where
  /-- `8XY4`: the flag is the carry. -/
  | add (h : result + 256 * flag = a + b) : Balances dialect a b result flag .add
  /-- `8XY5`: the flag says that nothing was borrowed. -/
  | sub (h : result = a - b + 256 * (1 - flag)) : Balances dialect a b result flag .sub
  /-- `8XY7`: likewise, with the operands exchanged. -/
  | subReversed (h : result = b - a + 256 * (1 - flag)) :
      Balances dialect a b result flag .subReversed
  /-- `8XY6`: the flag is the bit that is shifted out. -/
  | shiftRight (h : 2 * result + flag = if dialect.shiftReadsY then b else a) :
      Balances dialect a b result flag .shiftRight
  /-- `8XYE`: likewise, at the other end. -/
  | shiftLeft (h : result + 256 * flag = 2 * if dialect.shiftReadsY then b else a) :
      Balances dialect a b result flag .shiftLeft

/-- The numbers that a flag can be. -/
def IsFlag (n : Int) : Prop :=
  n = 0 ∨ n = 1

namespace Alu

/-- The functions that leave a result and a flag. -/
def arithmetic : List Alu :=
  [add, sub, subReversed, shiftRight, shiftLeft]

/-- The bitwise functions, each with the operation on numbers that it is. -/
def bitwise : List (Alu × (Nat → Nat → Nat)) :=
  [(or, Nat.lor), (and, Nat.land), (xor, Nat.xor)]

variable {dialect : Dialect} {function : Alu} {a b : Int}

theorem isFlag_flagOf (condition : Bool) : IsFlag (flagOf condition) := by
  cases condition <;> simp [flagOf, IsFlag]

theorem isFlag_emod (n : Int) : IsFlag (n % 2) := by
  unfold IsFlag
  omega

/-- What an arithmetic function leaves of bytes is a byte and a flag that balance. -/
theorem eval_arithmetic (dialect : Dialect) (hfunction : function ∈ arithmetic) (ha : IsByte a)
    (hb : IsByte b) :
    ∃ result flag, function.eval dialect a b = (result, some flag) ∧ IsByte result ∧ IsFlag flag ∧
      function.Balances dialect a b result flag := by
  have hsource : IsByte (if dialect.shiftReadsY then b else a) := by
    split
    · exact hb
    · exact ha
  unfold IsByte at ha hb hsource
  simp only [arithmetic, List.mem_cons, List.not_mem_nil, or_false] at hfunction
  rcases hfunction with rfl | rfl | rfl | rfl | rfl
  · refine ⟨_, _, rfl, isByte_emod _, isFlag_flagOf _, .add ?_⟩
    simp only [flagOf, decide_eq_true_eq]
    split <;> omega
  · refine ⟨_, _, rfl, isByte_emod _, isFlag_flagOf _, .sub ?_⟩
    simp only [flagOf, decide_eq_true_eq]
    split <;> omega
  · refine ⟨_, _, rfl, isByte_emod _, isFlag_flagOf _, .subReversed ?_⟩
    simp only [flagOf, decide_eq_true_eq]
    split <;> omega
  · refine ⟨_, _, rfl, ?_, isFlag_emod _, .shiftRight ?_⟩
    · constructor <;> omega
    · omega
  · refine ⟨_, _, rfl, isByte_emod _, isFlag_emod _, .shiftLeft ?_⟩
    omega

/-- The equation of a function determines the byte and the flag. -/
theorem Balances.unique {result flag result' flag' : Int}
    (h : function.Balances dialect a b result flag)
    (h' : function.Balances dialect a b result' flag') (hresult : IsByte result)
    (hresult' : IsByte result') (hflag : IsFlag flag) (hflag' : IsFlag flag') :
    result' = result ∧ flag' = flag := by
  unfold IsByte IsFlag at *
  cases h with
  | add h | sub h | subReversed h | shiftRight h | shiftLeft h =>
    cases h'
    omega

/-- On bytes the bitwise functions are the operations of natural numbers. -/
theorem eval_bitwise {operation : Nat → Nat → Nat} (dialect : Dialect)
    (h : (function, operation) ∈ bitwise) (ha : IsByte a) (hb : IsByte b) :
    function.eval dialect a b =
      (((operation a.toNat b.toNat : Nat) : Int),
        if dialect.logicClearsFlag then some 0 else none) := by
  obtain ⟨m, -, rfl⟩ := exists_natCast ha
  obtain ⟨n, -, rfl⟩ := exists_natCast hb
  simp only [bitwise, List.mem_cons, List.not_mem_nil, or_false, Prod.mk.injEq] at h
  rcases h with ⟨rfl, rfl⟩ | ⟨rfl, rfl⟩ | ⟨rfl, rfl⟩ <;> rfl

end Alu

namespace Machine

variable {rules : Rules} {machine : Machine} {x y : Register}

/-- A word is carried out and changes the registers to these, and nothing else. -/
def Leaves (rules : Rules) (machine : Machine) (word : Nat) (registers : Registers) : Prop :=
  machine.execute rules (Instruction.decode word) =
    .ok { machine with cpu := { machine.cpu with registers } }

theorem leaves_alu (rules : Rules) (machine : Machine) (function : Alu) (x y : Register) :
    machine.Leaves rules (0x8000 + 0x100 * x + 0x10 * y + function.code)
      (machine.cpu.combine rules.dialect function x y).registers := by
  have hword : 0x8000 + 0x100 * x.val + 0x10 * y.val + function.code =
      (Instruction.alu function x y).encode := by
    simp only [Instruction.encode, Instruction.digitByte]
    omega
  rw [Leaves, hword, Instruction.decode_encode rfl, ← Cpu.combine_eq]
  rfl

theorem leaves_addByte (rules : Rules) (machine : Machine) (x : Register) (kk : UInt8) :
    machine.Leaves rules (0x7000 + 0x100 * x + kk.toNat)
      (machine.cpu.set x ((machine.cpu.get x + kk.toNat) % 256)).registers := by
  have hword : 0x7000 + 0x100 * x.val + kk.toNat = (Instruction.addByte x kk).encode := by
    simp only [Instruction.encode, Instruction.digitByte]
    omega
  rw [Leaves, hword, Instruction.decode_encode rfl]
  rfl

/-- With bytes in the registers, `8XY4` to `8XY7` and `8XYE` leave the one byte and the one flag
that balance with their operands: the flag in VF and the byte in VX, unless VX is VF, where the byte
is lost.  `8XY1` to `8XY3` leave what the bitwise operation makes of the operands in VX; if the
dialect says so they clear VF besides, also where VX is VF, and otherwise VF is written only as VX.
`7XKK` adds a byte without a flag.  No other register changes, nor anything else. -/
theorem register_arithmetic (rules : Rules) (machine : Machine) (x y : Register) (kk : UInt8)
    (hbytes : ∀ r, IsByte (machine.cpu.get r)) :
    let a := machine.cpu.get x
    let b := machine.cpu.get y
    (∀ function ∈ Alu.arithmetic, ∃ (after : Registers) (result flag : Int),
      machine.Leaves rules (0x8000 + 0x100 * x + 0x10 * y + function.code) after ∧
      IsByte result ∧ IsFlag flag ∧ function.Balances rules.dialect a b result flag ∧
      (∀ result' flag', IsByte result' → IsFlag flag' →
        function.Balances rules.dialect a b result' flag' → result' = result ∧ flag' = flag) ∧
      after.get Register.flag = flag ∧ (x ≠ .flag → after.get x = result) ∧
      ∀ r, r ≠ x → r ≠ .flag → after.get r = machine.cpu.get r) ∧
    (∀ function operation, (function, operation) ∈ Alu.bitwise → ∃ after : Registers,
      machine.Leaves rules (0x8000 + 0x100 * x + 0x10 * y + function.code) after ∧
      (x ≠ .flag ∨ rules.dialect.logicClearsFlag = false →
        after.get x = operation a.toNat b.toNat) ∧
      (rules.dialect.logicClearsFlag = true → after.get Register.flag = 0) ∧
      (rules.dialect.logicClearsFlag = false → x ≠ .flag →
        after.get Register.flag = machine.cpu.get .flag) ∧
      ∀ r, r ≠ x → r ≠ .flag → after.get r = machine.cpu.get r) ∧
    ∃ after : Registers,
      machine.Leaves rules (0x7000 + 0x100 * x + kk.toNat) after ∧
      after.get x = (a + kk.toNat) % 256 ∧ ∀ r, r ≠ x → after.get r = machine.cpu.get r := by
  intro a b
  have hget (function : Alu) (r : Register) :
      (machine.cpu.combine rules.dialect function x y).registers.get r = _ :=
    Cpu.get_combine machine.cpu rules.dialect function x y r
  refine ⟨fun function hfunction => ?_, fun function operation hbitwise => ?_, ?_⟩
  · obtain ⟨result, flag, heval, hresult, hflag, hbalances⟩ :=
      Alu.eval_arithmetic rules.dialect hfunction (hbytes x) (hbytes y)
    refine ⟨_, result, flag, leaves_alu rules machine function x y, hresult, hflag, hbalances,
      fun result' flag' hresult' hflag' hbalances' =>
        hbalances.unique hbalances' hresult hresult' hflag hflag', ?_, fun hx => ?_,
      fun r hr hrflag => ?_⟩
    · rw [hget, heval]
      simp
    · rw [hget, heval]
      simp [hx]
    · rw [hget]
      simp [hr, hrflag]
  · have heval := Alu.eval_bitwise rules.dialect hbitwise (hbytes x) (hbytes y)
    refine ⟨_, leaves_alu rules machine function x y, fun hkept => ?_, fun hclears => ?_,
      fun hkept hx => ?_, fun r hr hrflag => ?_⟩
    · rw [hget, heval]
      rcases hkept with hx | hkept
      · simp [hx, a, b]
      · simp [hkept, a, b]
    · rw [hget, heval]
      simp [hclears]
    · rw [hget, heval]
      simp [hkept, Ne.symm hx]
    · rw [hget]
      simp [hr, hrflag]
  · have hset (r : Register) :
        (machine.cpu.set x ((a + kk.toNat) % 256)).registers.get r = _ :=
      Cpu.get_set machine.cpu x r _
    refine ⟨_, leaves_addByte rules machine x kk, ?_, fun r hr => ?_⟩
    · rw [hset, if_pos rfl]
    · rw [hset, if_neg hr]

/-- With VF for VX: the sum 300 leaves its carry alone, and a bitwise function that clears VF leaves
nothing of its result. -/
theorem register_arithmetic_into_flag :
    let rules : Rules := ⟨{ logicClearsFlag := true }, 16⟩
    let machine : Machine :=
      { cpu := (Cpu.initial.set .flag 200).set 14 100
        memory := .blank
        screen := Screen.dark
        keypad := .released
        random := ⟨Vector.replicate 624 0, 0⟩ }
    (∀ r, IsByte (machine.cpu.get r)) ∧
      (∃ after : Registers, machine.Leaves rules 0x8FE4 after ∧ after.get Register.flag = 1 ∧
        after.get 14 = 100) ∧
      ∃ after : Registers, machine.Leaves rules 0x8FE1 after ∧ after.get Register.flag = 0 := by
  intro rules machine
  have hbytes : ∀ r, IsByte (machine.cpu.get r) := by
    unfold IsByte
    decide
  obtain ⟨harithmetic, hbitwise, -⟩ := register_arithmetic rules machine .flag 14 0 hbytes
  obtain ⟨sum, result, carry, hsum, hresult, hcarry, hbalances, -, hflag, -, hkept⟩ :=
    harithmetic .add (by decide)
  obtain ⟨either, heither, -, hclears, -⟩ := hbitwise .or Nat.lor List.mem_cons_self
  have hone : carry = 1 := by
    have ha : machine.cpu.get .flag = 200 := by decide
    have hb : machine.cpu.get 14 = 100 := by decide
    cases hbalances with
    | add h =>
      unfold IsByte at hresult
      unfold IsFlag at hcarry
      omega
  have hother : sum.get 14 = machine.cpu.get 14 := hkept 14 (by decide) (by decide)
  exact ⟨hbytes, ⟨sum, hsum, hflag.trans hone, hother.trans (by decide)⟩, either, heither,
    hclears rfl⟩

end Machine
end Chip8
