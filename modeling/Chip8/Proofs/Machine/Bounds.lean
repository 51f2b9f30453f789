import Chip8.Proofs.Machine.Step

/-!
# The numbers of a machine stay small

Registers, index, program counter, stack and timers are integers, and few instructions cut what
they compute to size.  Yet a program that starts from a machine within its bounds never leaves
them: `Machine.Bounded` is kept by every step (`Machine.Bounded.step`).

The bounds depend on each other.  A jump with an offset takes the program counter beyond memory by
no more than a byte, because registers hold bytes; from there nothing can be fetched, so that skips
and calls start from an address within memory, and what calls leave on the stack is one, too.  The
place of the font is part of the bounds because an instruction copies it into the index.
-/

namespace Chip8

/-- The numbers that a byte can be. -/
def IsByte (n : Int) : Prop :=
  0 ≤ n ∧ n ≤ 255

theorem isByte_toNat (byte : UInt8) : IsByte byte.toNat := by
  have := byte.toNat_lt
  constructor <;> omega

theorem isByte_emod (n : Int) : IsByte (n % 256) := by
  constructor <;> omega

theorem isByte_register (r : Fin 16) : IsByte r.val := by
  constructor <;> omega

namespace Alu

theorem isByte_flagOf (condition : Bool) : IsByte (flagOf condition) := by
  cases condition <;> simp [flagOf, IsByte]

theorem isByte_natCast {m : Nat} (h : m < 256) : IsByte m := by
  constructor <;> omega

theorem exists_natCast {a : Int} (ha : IsByte a) : ∃ m : Nat, m < 256 ∧ a = m := by
  obtain ⟨m, rfl⟩ := Int.eq_ofNat_of_zero_le ha.1
  have := ha.2
  exact ⟨m, by omega, rfl⟩

/-- From bytes every function computes bytes, and the flag is one, too. -/
theorem isByte_eval {a b : Int} (dialect : Dialect) (function : Alu) (ha : IsByte a)
    (hb : IsByte b) :
    IsByte (function.eval dialect a b).1 ∧
      ∀ flag ∈ (function.eval dialect a b).2, IsByte flag := by
  have hflag : ∀ flag ∈ (if dialect.logicClearsFlag then some (0 : Int) else none),
      IsByte flag := by
    split <;> simp [IsByte]
  obtain ⟨m, hm, hma⟩ := exists_natCast ha
  obtain ⟨n, hn, hnb⟩ := exists_natCast hb
  cases function with
  | load => exact ⟨hb, by simp [eval]⟩
  | or =>
    refine ⟨?_, hflag⟩
    simp only [eval, hma, hnb, Bits.or_natCast]
    exact isByte_natCast (Nat.or_lt_two_pow (n := 8) hm hn)
  | and =>
    refine ⟨?_, hflag⟩
    simp only [eval, hma, hnb, Bits.and_natCast]
    exact isByte_natCast (Nat.and_lt_two_pow (n := 8) m hn)
  | xor =>
    refine ⟨?_, hflag⟩
    simp only [eval, hma, hnb, Bits.xor_natCast]
    exact isByte_natCast (Nat.xor_lt_two_pow (n := 8) hm hn)
  | add | sub | subReversed =>
    refine ⟨isByte_emod _, ?_⟩
    simp only [eval, Option.mem_def, Option.some.injEq, forall_eq']
    exact isByte_flagOf _
  | shiftRight =>
    unfold IsByte at *
    simp only [eval, Option.mem_def, Option.some.injEq, forall_eq']
    split <;> omega
  | shiftLeft =>
    unfold IsByte at *
    simp only [eval, Option.mem_def, Option.some.injEq, forall_eq']
    split <;> omega

end Alu

namespace Cpu

/-- The numbers of a `Cpu` are within their bounds, and the stack holds at most `limit`
addresses. -/
structure Bounded (limit : Nat) (cpu : Cpu) : Prop where
  registers : ∀ r, IsByte (cpu.get r)
  index : 0 ≤ cpu.index ∧ cpu.index ≤ 0xFFFF
  pc : 0 ≤ cpu.pc ∧ cpu.pc ≤ 0x10FE
  depth : cpu.stack.length ≤ limit
  returns : ∀ address ∈ cpu.stack, 2 ≤ address ∧ address ≤ 0x1000
  delay : IsByte cpu.delay
  sound : IsByte cpu.sound

namespace Bounded

variable {limit : Nat} {cpu : Cpu}

theorem initial : Cpu.initial.Bounded limit where
  registers r := by simp [Cpu.get, Cpu.initial, IsByte]
  index := by decide
  pc := by decide
  depth := Nat.zero_le limit
  returns := by simp [Cpu.initial]
  delay := by simp [Cpu.initial, IsByte]
  sound := by simp [Cpu.initial, IsByte]

theorem withRegisters (h : cpu.Bounded limit) {registers : Registers}
    (hbytes : ∀ r, IsByte (Cpu.get { cpu with registers } r)) :
    Cpu.Bounded limit { cpu with registers } :=
  { h with registers := hbytes }

theorem withPc (h : cpu.Bounded limit) {pc : Int} (hpc : 0 ≤ pc ∧ pc ≤ 0x10FE) :
    Cpu.Bounded limit { cpu with pc } :=
  { h with pc := hpc }

theorem withIndex (h : cpu.Bounded limit) {index : Int} (hindex : 0 ≤ index ∧ index ≤ 0xFFFF) :
    Cpu.Bounded limit { cpu with index } :=
  { h with index := hindex }

theorem set (h : cpu.Bounded limit) (r : Register) {value : Int} (hvalue : IsByte value) :
    (cpu.set r value).Bounded limit := by
  refine h.withRegisters fun other => ?_
  have hget : IsByte ((cpu.set r value).get other) := by
    rw [get_set]
    split
    · exact hvalue
    · exact h.registers other
  exact hget

theorem load (h : cpu.Bounded limit) (bytes : List UInt8) :
    (cpu.load (bytes.map fun byte => (byte.toNat : Int))).Bounded limit := by
  refine h.withRegisters fun r => ?_
  have hget : IsByte ((cpu.load (bytes.map fun byte => (byte.toNat : Int))).get r) := by
    rw [get_load, List.getElem?_map]
    cases bytes[r.val]? with
    | none => exact h.registers r
    | some byte => exact isByte_toNat byte
  exact hget

theorem combine (h : cpu.Bounded limit) (dialect : Dialect) (function : Alu) (x y : Register) :
    (cpu.combine dialect function x y).Bounded limit := by
  obtain ⟨hresult, hflag⟩ :=
    Alu.isByte_eval dialect function (h.registers x) (h.registers y)
  unfold Cpu.combine
  cases hf : (function.eval dialect (cpu.get x) (cpu.get y)).2 with
  | none => simpa only [hf] using h.set x hresult
  | some flag => simpa only [hf] using (h.set x hresult).set .flag (hflag flag hf)

theorem indexBehind (h : cpu.Bounded limit) (dialect : Dialect) (last : Register) :
    0 ≤ cpu.indexBehind dialect last ∧ cpu.indexBehind dialect last ≤ 0xFFFF := by
  unfold Cpu.indexBehind
  split
  · omega
  · exact h.index

theorem countDown {timer : Int} (h : IsByte timer) : IsByte (Cpu.countDown timer) := by
  unfold IsByte Cpu.countDown at *
  split <;> omega

theorem tickTimers (h : cpu.Bounded limit) : cpu.tickTimers.Bounded limit :=
  { h with delay := countDown h.delay, sound := countDown h.sound }

end Bounded
end Cpu

namespace Machine

/-- The numbers of a machine are within their bounds, and its font lies within memory. -/
structure Bounded (limit : Nat) (machine : Machine) : Prop where
  cpu : machine.cpu.Bounded limit
  font : machine.memory.fontOffset + Font.size ≤ memorySize

namespace Bounded

variable {limit : Nat} {rules : Rules} {machine next : Machine} {i : Instruction}

theorem advance (h : machine.Bounded limit) (hfetch : machine.CanFetch) :
    machine.advance.Bounded limit := by
  have hpc := hfetch.1
  have hend : machine.cpu.pc + 2 ≤ 4096 := hfetch.2
  exact ⟨h.cpu.withPc (by omega), h.font⟩

theorem withCpu (h : machine.Bounded limit) {cpu : Cpu} (hcpu : cpu.Bounded limit) :
    Machine.Bounded limit { machine with cpu } :=
  ⟨hcpu, h.font⟩

/-- An instruction that was just fetched keeps the bounds. -/
theorem execute (h : machine.Bounded limit) (hrules : rules.stackLimit = limit)
    (hpc : 2 ≤ machine.cpu.pc ∧ machine.cpu.pc ≤ 0x1000)
    (hexec : machine.execute rules i = .ok next) : next.Bounded limit := by
  obtain ⟨hlow, hhigh⟩ := hpc
  cases i with
  | clearScreen | unknown word =>
    cases hexec
    exact ⟨h.cpu, h.font⟩
  -- What moves the program counter.
  | ret =>
    have hreturns := h.cpu.returns
    have hdepth := h.cpu.depth
    cases hstack : machine.cpu.stack with
    | nil =>
      simp only [Machine.execute, hstack, Except.ok.injEq] at hexec
      exact hexec ▸ h
    | cons top rest =>
      simp only [Machine.execute, hstack, Except.ok.injEq] at hexec
      rw [hstack] at hreturns hdepth
      have htop := hreturns top List.mem_cons_self
      have hrest : Cpu.Bounded limit { machine.cpu with pc := top, stack := rest } :=
        { h.cpu with
          pc := by constructor <;> dsimp only <;> omega
          depth := Nat.le_of_succ_le hdepth
          returns := fun address hmem => hreturns address (List.mem_cons_of_mem top hmem) }
      exact hexec ▸ h.withCpu hrest
  | jump target =>
    cases hexec
    exact h.withCpu (h.cpu.withPc (by omega))
  | call target =>
    simp only [Machine.execute] at hexec
    split at hexec
    next => cases hexec
    next hroom =>
      cases hexec
      have hcalled : Cpu.Bounded limit
          { machine.cpu with stack := machine.cpu.pc :: machine.cpu.stack, pc := target.val } := by
        refine { h.cpu with pc := ?_, depth := ?_, returns := ?_ }
        · dsimp only
          omega
        · rw [List.length_cons]
          omega
        · intro address hmem
          rcases List.mem_cons.1 hmem with rfl | hmem
          · exact ⟨hlow, hhigh⟩
          · exact h.cpu.returns address hmem
      exact h.withCpu hcalled
  | jumpOffset target =>
    cases hexec
    have hoffset := h.cpu.registers (Cpu.offsetRegister rules.dialect target)
    unfold IsByte at hoffset
    exact h.withCpu (h.cpu.withPc (by omega))
  | skip condition =>
    simp only [Machine.execute] at hexec
    split at hexec
    · cases hexec
      exact h.withCpu (h.cpu.withPc (by omega))
    · exact Except.ok.inj hexec ▸ h
  -- What writes registers.
  | loadByte x kk =>
    cases hexec
    exact h.withCpu (h.cpu.set x (isByte_toNat kk))
  | addByte x kk =>
    cases hexec
    exact h.withCpu (h.cpu.set x (isByte_emod _))
  | alu function x y =>
    cases hexec
    exact h.withCpu (h.cpu.combine rules.dialect function x y)
  | random x kk =>
    simp only [Machine.execute, Except.ok.injEq] at hexec
    subst hexec
    exact ⟨h.cpu.set x (isByte_toNat _), h.font⟩
  | readDelay x =>
    cases hexec
    exact h.withCpu (h.cpu.set x h.cpu.delay)
  | draw x y n =>
    simp only [Machine.execute, drawSprite, bind_pure_comp, map_eq_ok_iff] at hexec
    obtain ⟨rows, -, rfl⟩ := hexec
    exact ⟨h.cpu.set .flag (Alu.isByte_flagOf _), h.font⟩
  -- What sets the index, a timer or the wait.
  | setIndex address =>
    cases hexec
    exact h.withCpu (h.cpu.withIndex (by omega))
  | addIndex x =>
    cases hexec
    exact h.withCpu (h.cpu.withIndex (by omega))
  | pointGlyph x =>
    cases hexec
    have hfont : machine.memory.fontOffset + 80 ≤ 4096 := h.font
    refine h.withCpu (h.cpu.withIndex ?_)
    simp only [Font.glyphAddress, Font.glyphSize]
    omega
  | setDelay x =>
    cases hexec
    exact h.withCpu { h.cpu with delay := h.cpu.registers x }
  | setSound x =>
    cases hexec
    exact h.withCpu { h.cpu with sound := h.cpu.registers x }
  | awaitKey x =>
    cases hexec
    exact h.withCpu { h.cpu with }
  -- What moves bytes at the index.
  | storeDecimal x =>
    simp only [Machine.execute, bind_pure_comp, map_eq_ok_iff] at hexec
    obtain ⟨memory, hwrite, rfl⟩ := hexec
    exact ⟨h.cpu, by rw [Memory.fontOffset_of_writeBlock hwrite]; exact h.font⟩
  | storeRegisters x =>
    simp only [Machine.execute, bind_pure_comp, map_eq_ok_iff] at hexec
    obtain ⟨memory, hwrite, rfl⟩ := hexec
    exact ⟨h.cpu.withIndex (h.cpu.indexBehind rules.dialect x),
      by rw [Memory.fontOffset_of_writeBlock hwrite]; exact h.font⟩
  | loadRegisters x =>
    simp only [Machine.execute, bind_pure_comp, map_eq_ok_iff] at hexec
    obtain ⟨bytes, -, rfl⟩ := hexec
    exact h.withCpu ((h.cpu.load bytes).withIndex (h.cpu.indexBehind rules.dialect x))

/-- A step keeps the bounds, whatever stands in memory. -/
theorem step (h : machine.Bounded limit) (hrules : rules.stackLimit = limit) :
    (machine.step rules).value.machine.Bounded limit := by
  rcases step_cases rules machine with
    ⟨cause, -, hstep⟩ | ⟨cause, hcan, -, hstep⟩ | ⟨next, hcan, hexec, hstep⟩
  · rw [hstep]
    exact h
  · rw [hstep]
    exact h.advance hcan
  · rw [hstep]
    have hend : machine.cpu.pc + 2 ≤ 4096 := hcan.2
    have hpc := hcan.1
    exact (h.advance hcan).execute hrules (by simp only [Machine.advance]; omega) hexec

end Bounded
end Machine
end Chip8
