import Chip8.Proofs.Machine.Footprint

/-!
# Where a program goes on

After most instructions a program goes on behind their word.  The others are jumps, calls, returns
and skips; `Instruction.pcAfter` says where each of them goes, and every instruction that is carried
out goes there (`Machine.pc_execute`).

A skip goes on behind the next word if its condition holds.  `Machine.Skips` reads the condition off
the digits of a word (`Machine.skips_of_decode`, `Machine.Skips.exists_decode`).  Conditions come in
pairs of opposites, of which just one holds in any state.

`Machine.step_control_flow` puts this together for the word at the program counter.
-/

namespace Chip8

namespace Instruction

/-- Where a program goes on after an instruction, on a machine whose program counter is behind its
word. -/
def pcAfter (rules : Rules) (machine : Machine) : Instruction → Int
  | ret => machine.cpu.stack.headD machine.cpu.pc
  | jump target | call target => target.val
  | jumpOffset target =>
    target.val + machine.cpu.get (Cpu.offsetRegister rules.dialect target)
  | skip condition =>
    if condition.holds machine.cpu machine.keypad then machine.cpu.pc + 2 else machine.cpu.pc
  | _ => machine.cpu.pc

/-- To be decoded from a word is to have this word, for what is an instruction. -/
theorem decode_eq_iff {w : Word} {i : Instruction} (h : i.isUnknown = false) :
    decode w.val = i ↔ i.encode = w.val := by
  refine ⟨fun hi => ?_, decode_eq_of_encode h⟩
  rw [← hi]
  exact encode_decode_word w

theorem digitByte_eq_iff {w : Word} {digit low : Nat} {x : Register} (hlow : low < 0x100) :
    digitByte digit x low = w.val ↔
      w.val / 0x1000 = digit ∧ w.x = x ∧ w.val % 0x100 = low := by
  simp only [digitByte, Word.x, Fin.ext_iff]
  omega

theorem digitByte_register_eq_iff {w : Word} {digit : Nat} {x y : Register} :
    digitByte digit x (y.val * 0x10) = w.val ↔
      w.val / 0x1000 = digit ∧ w.x = x ∧ w.y = y ∧ w.val % 0x10 = 0 := by
  rw [digitByte_eq_iff (by omega)]
  simp only [Word.y, Fin.ext_iff]
  omega

end Instruction

namespace Condition

/-- The condition that holds whenever the other one does not. -/
def opposite : Condition → Condition
  | byteIs x kk => byteIsNot x kk
  | byteIsNot x kk => byteIs x kk
  | same x y => differ x y
  | differ x y => same x y
  | keyDown x => keyUp x
  | keyUp x => keyDown x

theorem holds_opposite (cpu : Cpu) (keypad : Keypad) (condition : Condition) :
    condition.opposite.holds cpu keypad = !condition.holds cpu keypad := by
  cases condition <;> simp [opposite, holds, bne]

end Condition

namespace Machine

variable {rules : Rules} {machine next : Machine} {i : Instruction} {w : Word}

/-! ## Words of skips -/

/-- A word is a skip whose condition holds. -/
inductive Skips (machine : Machine) (w : Word) : Prop where
  /-- `3XKK` with this byte in VX. -/
  | byteIs (hword : w.val / 0x1000 = 0x3) (hbyte : machine.cpu.get w.x = (w.val % 0x100 : Nat))
  /-- `4XKK` with another byte in VX. -/
  | byteIsNot (hword : w.val / 0x1000 = 0x4) (hbyte : machine.cpu.get w.x ≠ (w.val % 0x100 : Nat))
  /-- `5XY0` with the same in VX and VY. -/
  | same (hword : w.val / 0x1000 = 0x5 ∧ w.val % 0x10 = 0)
      (hsame : machine.cpu.get w.x = machine.cpu.get w.y)
  /-- `9XY0` with something else in VX than in VY. -/
  | differ (hword : w.val / 0x1000 = 0x9 ∧ w.val % 0x10 = 0)
      (hdiffer : machine.cpu.get w.x ≠ machine.cpu.get w.y)
  /-- `EX9E` with the key down whose number is in the low four bits of VX. -/
  | keyDown (hword : w.val / 0x1000 = 0xE ∧ w.val % 0x100 = 0x9E)
      (hdown : machine.keypad.isDown (.ofLowBits (machine.cpu.get w.x)) = true)
  /-- `EXA1` with this key up. -/
  | keyUp (hword : w.val / 0x1000 = 0xE ∧ w.val % 0x100 = 0xA1)
      (hup : machine.keypad.isDown (.ofLowBits (machine.cpu.get w.x)) = false)

open Instruction in
theorem skips_of_decode {condition : Condition} (hi : decode w.val = .skip condition)
    (hholds : condition.holds machine.cpu machine.keypad = true) : machine.Skips w := by
  have hw := (decode_eq_iff rfl).1 hi
  cases condition with
  | byteIs x kk =>
    obtain ⟨hdigit, rfl, hlow⟩ := (digitByte_eq_iff kk.toNat_lt).1 hw
    refine .byteIs hdigit ?_
    rw [hlow]
    simpa [Condition.holds] using hholds
  | byteIsNot x kk =>
    obtain ⟨hdigit, rfl, hlow⟩ := (digitByte_eq_iff kk.toNat_lt).1 hw
    refine .byteIsNot hdigit ?_
    rw [hlow]
    simpa [Condition.holds] using hholds
  | same x y =>
    obtain ⟨hdigit, rfl, rfl, hlow⟩ := digitByte_register_eq_iff.1 hw
    refine .same ⟨hdigit, hlow⟩ ?_
    simpa [Condition.holds] using hholds
  | differ x y =>
    obtain ⟨hdigit, rfl, rfl, hlow⟩ := digitByte_register_eq_iff.1 hw
    refine .differ ⟨hdigit, hlow⟩ ?_
    simpa [Condition.holds] using hholds
  | keyDown x =>
    obtain ⟨hdigit, rfl, hlow⟩ := (digitByte_eq_iff (by omega)).1 hw
    exact .keyDown ⟨hdigit, hlow⟩ hholds
  | keyUp x =>
    obtain ⟨hdigit, rfl, hlow⟩ := (digitByte_eq_iff (by omega)).1 hw
    refine .keyUp ⟨hdigit, hlow⟩ ?_
    simpa [Condition.holds] using hholds

open Instruction in
theorem Skips.exists_decode (h : machine.Skips w) : ∃ condition,
    decode w.val = .skip condition ∧ condition.holds machine.cpu machine.keypad = true := by
  cases h with
  | byteIs hword hbyte =>
    refine ⟨.byteIs w.x w.kk, (decode_eq_iff rfl).2 ?_, ?_⟩
    · exact (digitByte_eq_iff w.kk.toNat_lt).2 ⟨hword, rfl, (toNat_kk w).symm⟩
    · simpa [Condition.holds, toNat_kk] using hbyte
  | byteIsNot hword hbyte =>
    refine ⟨.byteIsNot w.x w.kk, (decode_eq_iff rfl).2 ?_, ?_⟩
    · exact (digitByte_eq_iff w.kk.toNat_lt).2 ⟨hword, rfl, (toNat_kk w).symm⟩
    · simpa [Condition.holds, toNat_kk] using hbyte
  | same hword hsame =>
    refine ⟨.same w.x w.y, (decode_eq_iff rfl).2 ?_, ?_⟩
    · exact digitByte_register_eq_iff.2 ⟨hword.1, rfl, rfl, hword.2⟩
    · simpa [Condition.holds] using hsame
  | differ hword hdiffer =>
    refine ⟨.differ w.x w.y, (decode_eq_iff rfl).2 ?_, ?_⟩
    · exact digitByte_register_eq_iff.2 ⟨hword.1, rfl, rfl, hword.2⟩
    · simpa [Condition.holds] using hdiffer
  | keyDown hword hdown =>
    refine ⟨.keyDown w.x, (decode_eq_iff rfl).2 ?_, hdown⟩
    exact (digitByte_eq_iff (by omega)).2 ⟨hword.1, rfl, hword.2⟩
  | keyUp hword hup =>
    refine ⟨.keyUp w.x, (decode_eq_iff rfl).2 ?_, ?_⟩
    · exact (digitByte_eq_iff (by omega)).2 ⟨hword.1, rfl, hword.2⟩
    · simpa [Condition.holds] using hup

/-! ## The program counter after an instruction -/

theorem execute_skip (rules : Rules) (machine : Machine) (condition : Condition) :
    machine.execute rules (.skip condition) =
      .ok (if condition.holds machine.cpu machine.keypad then machine.advance else machine) := by
  simp only [execute]
  split <;> rfl

theorem pc_execute (hexec : machine.execute rules i = .ok next) :
    next.cpu.pc = i.pcAfter rules machine := by
  cases i with
  | ret =>
    simp only [execute] at hexec
    split at hexec
    next hstack =>
      cases hexec
      rw [Instruction.pcAfter, hstack, List.headD_nil]
    next hstack =>
      cases hexec
      rw [Instruction.pcAfter, hstack, List.headD_cons]
  | call target =>
    simp only [execute] at hexec
    split at hexec <;> cases hexec
    rfl
  | skip condition =>
    rw [execute_skip] at hexec
    cases hexec
    rw [Instruction.pcAfter]
    split <;> rfl
  | alu function x y =>
    cases hexec
    rw [Cpu.combine_eq]
    rfl
  | draw x y n =>
    simp only [execute, drawSprite, bind_pure_comp, map_eq_ok_iff] at hexec
    obtain ⟨rows, -, rfl⟩ := hexec
    rfl
  | storeDecimal x | storeRegisters x | loadRegisters x =>
    simp only [execute, bind_pure_comp, map_eq_ok_iff] at hexec
    obtain ⟨moved, -, rfl⟩ := hexec
    rfl
  | random x kk =>
    simp only [execute, Except.ok.injEq] at hexec
    subst hexec
    rfl
  | _ =>
    cases hexec
    rfl

/-- A step that is carried out goes on where its instruction says. -/
theorem pc_step (hstep : (machine.step rules).value.result = .ok i) :
    (machine.step rules).value.machine.cpu.pc =
      machine.nextInstruction.pcAfter rules machine.advance := by
  obtain ⟨rfl, hexec, -⟩ := execute_of_result_step hstep
  exact pc_execute hexec

/-! ## Reading it off the word -/

section

open Instruction

theorem offsetRegister_nnn (dialect : Dialect) (w : Word) :
    Cpu.offsetRegister dialect w.nnn = if dialect.jumpReadsX then w.x else .first := by
  unfold Cpu.offsetRegister
  split
  · simp only [Word.nnn, Word.x, Fin.mk.injEq]
    omega
  · rfl

theorem holds_advance (machine : Machine) (condition : Condition) :
    condition.holds machine.advance.cpu machine.advance.keypad =
      condition.holds machine.cpu machine.keypad := by
  cases condition <;> rfl

theorem pcAfter_of_jump (hword : w.val / 0x1000 = 0x1 ∨ w.val / 0x1000 = 0x2) :
    (decode w.val).pcAfter rules machine.advance = (w.val % 0x1000 : Nat) := by
  rcases hword with hjump | hcall
  · have hi : decode w.val = .jump w.nnn := by
      refine (decode_eq_iff rfl).2 ?_
      simp only [encode, Word.nnn]
      omega
    rw [hi]
    rfl
  · have hi : decode w.val = .call w.nnn := by
      refine (decode_eq_iff rfl).2 ?_
      simp only [encode, Word.nnn]
      omega
    rw [hi]
    rfl

theorem pcAfter_of_jumpOffset (hword : w.val / 0x1000 = 0xB) :
    (decode w.val).pcAfter rules machine.advance = (w.val % 0x1000 : Nat) +
      machine.cpu.get (if rules.dialect.jumpReadsX then w.x else .first) := by
  have hi : decode w.val = .jumpOffset w.nnn := by
    refine (decode_eq_iff rfl).2 ?_
    simp only [encode, Word.nnn]
    omega
  rw [hi, pcAfter, offsetRegister_nnn]
  rfl

theorem pcAfter_of_ret {top : Int} {rest : List Int} (hword : w.val = 0x00EE)
    (hstack : machine.cpu.stack = top :: rest) :
    (decode w.val).pcAfter rules machine.advance = top := by
  have hi : decode w.val = .ret := (decode_eq_iff rfl).2 hword.symm
  have hadvance : machine.advance.cpu.stack = top :: rest := hstack
  rw [hi, pcAfter, hadvance, List.headD_cons]

theorem pcAfter_of_skips (hskips : machine.Skips w) :
    (decode w.val).pcAfter rules machine.advance = machine.cpu.pc + 4 := by
  obtain ⟨condition, hi, hholds⟩ := hskips.exists_decode
  have hpc : machine.advance.cpu.pc = machine.cpu.pc + 2 := rfl
  rw [hi, pcAfter, holds_advance, if_pos hholds, hpc]
  omega

/-- All other words are passed over, be they instructions or not. -/
theorem pcAfter_of_other (hjump : w.val / 0x1000 ≠ 0x1) (hcall : w.val / 0x1000 ≠ 0x2)
    (hoffset : w.val / 0x1000 ≠ 0xB) (hret : w.val = 0x00EE → machine.cpu.stack = [])
    (hskips : ¬machine.Skips w) :
    (decode w.val).pcAfter rules machine.advance = machine.cpu.pc + 2 := by
  have hw := encode_decode_word w
  cases hi : decode w.val with
  | jump target =>
    rw [hi, encode] at hw
    omega
  | call target =>
    rw [hi, encode] at hw
    omega
  | jumpOffset target =>
    rw [hi, encode] at hw
    omega
  | ret =>
    rw [hi] at hw
    have hadvance : machine.advance.cpu.stack = [] := hret hw.symm
    rw [pcAfter, hadvance, List.headD_nil]
    rfl
  | skip condition =>
    have hfails : ¬condition.holds machine.cpu machine.keypad = true :=
      fun hholds => hskips (skips_of_decode hi hholds)
    rw [pcAfter, holds_advance, if_neg hfails]
    rfl
  | _ => rfl

end

/-! ## Pairs of skips -/

/-- The words of two skips with opposite conditions. -/
def skipPairs (x y : Register) (kk : UInt8) : List (Nat × Nat) :=
  [(0x3000 + 0x100 * x + kk.toNat, 0x4000 + 0x100 * x + kk.toNat),
   (0x5000 + 0x100 * x + 0x10 * y, 0x9000 + 0x100 * x + 0x10 * y),
   (0xE09E + 0x100 * x, 0xE0A1 + 0x100 * x)]

open Instruction in
theorem exists_condition_of_mem_skipPairs {x y : Register} {kk : UInt8} {pair : Nat × Nat}
    (h : pair ∈ skipPairs x y kk) : ∃ condition : Condition,
      pair.1 = (skip condition).encode ∧ pair.2 = (skip condition.opposite).encode := by
  simp only [skipPairs, List.mem_cons, List.not_mem_nil, or_false] at h
  rcases h with rfl | rfl | rfl
  · refine ⟨.byteIs x kk, ?_, ?_⟩ <;> simp only [encode, Condition.opposite, digitByte] <;> omega
  · refine ⟨.same x y, ?_, ?_⟩ <;> simp only [encode, Condition.opposite, digitByte] <;> omega
  · refine ⟨.keyDown x, ?_, ?_⟩ <;> simp only [encode, Condition.opposite, digitByte] <;> omega

/-- Of two skips with opposite conditions one skips and the other does nothing. -/
theorem execute_skipPairs {x y : Register} {kk : UInt8} {pair : Nat × Nat}
    (h : pair ∈ skipPairs x y kk) (rules : Rules) (machine : Machine) :
    (machine.execute rules (Instruction.decode pair.1) = .ok machine.advance ∧
      machine.execute rules (Instruction.decode pair.2) = .ok machine) ∨
    (machine.execute rules (Instruction.decode pair.1) = .ok machine ∧
      machine.execute rules (Instruction.decode pair.2) = .ok machine.advance) := by
  obtain ⟨condition, hfirst, hsecond⟩ := exists_condition_of_mem_skipPairs h
  rw [hfirst, hsecond, Instruction.decode_encode rfl, Instruction.decode_encode rfl, execute_skip,
    execute_skip, Condition.holds_opposite]
  cases condition.holds machine.cpu machine.keypad with
  | true => exact Or.inl ⟨rfl, rfl⟩
  | false => exact Or.inr ⟨rfl, rfl⟩

theorem execute_skip_eq_advance_iff (rules : Rules) (machine : Machine) (condition : Condition) :
    machine.execute rules (.skip condition) = .ok machine.advance ↔
      condition.holds machine.cpu machine.keypad = true := by
  rw [execute_skip]
  cases condition.holds machine.cpu machine.keypad with
  | true => simp
  | false =>
    have hne : machine ≠ machine.advance := by
      intro h
      have hpc : machine.cpu.pc = machine.cpu.pc + 2 := congrArg (·.cpu.pc) h
      omega
    simpa using hne

/-- The skips that look at a key look at nothing else but the low four bits that select it. -/
theorem execute_keySkip_congr {x : Register} {other : Machine}
    (hkeypad : other.keypad = machine.keypad)
    (hlow : other.cpu.get x % 16 = machine.cpu.get x % 16) {condition : Condition}
    (hcondition : condition = .keyDown x ∨ condition = .keyUp x) :
    other.execute rules (.skip condition) = .ok other.advance ↔
      machine.execute rules (.skip condition) = .ok machine.advance := by
  have hkey : Key.ofLowBits (other.cpu.get x) = Key.ofLowBits (machine.cpu.get x) := by
    simp only [Key.ofLowBits, hlow]
  rw [execute_skip_eq_advance_iff, execute_skip_eq_advance_iff]
  rcases hcondition with rfl | rfl <;> rw [Condition.holds, Condition.holds, hkeypad, hkey]

/-- A step that is carried out goes on at the address in its word for `1NNN` and `2NNN`, at this
address and the value of V0 behind it, or of VX if the dialect says so, for `BNNN`, at the address
on top of the stack for `00EE` if there is one, behind the next word for a skip whose condition
holds before the step, and behind its own word for everything else.  Of two skips with opposite
conditions just one skips in any state, and for those that look at a key nothing of VX counts but
its low four bits. -/
theorem step_control_flow (rules : Rules) (machine : Machine) :
    (∀ i, (machine.step rules).value.result = .ok i →
      let w := machine.nextWord
      let p := machine.cpu.pc
      let after := (machine.step rules).value.machine.cpu.pc
      (w.val / 0x1000 = 0x1 ∨ w.val / 0x1000 = 0x2 → after = (w.val % 0x1000 : Nat)) ∧
      (w.val / 0x1000 = 0xB → after = (w.val % 0x1000 : Nat) +
        machine.cpu.get (if rules.dialect.jumpReadsX then w.x else .first)) ∧
      (∀ top rest, w.val = 0x00EE → machine.cpu.stack = top :: rest → after = top) ∧
      (machine.Skips w → after = p + 4) ∧
      (w.val / 0x1000 ≠ 0x1 → w.val / 0x1000 ≠ 0x2 → w.val / 0x1000 ≠ 0xB →
        (w.val = 0x00EE → machine.cpu.stack = []) → ¬machine.Skips w → after = p + 2)) ∧
    (∀ (x y : Register) (kk : UInt8), ∀ pair ∈ skipPairs x y kk,
      (machine.execute rules (Instruction.decode pair.1) = .ok machine.advance ∧
        machine.execute rules (Instruction.decode pair.2) = .ok machine) ∨
      (machine.execute rules (Instruction.decode pair.1) = .ok machine ∧
        machine.execute rules (Instruction.decode pair.2) = .ok machine.advance)) ∧
    ∀ (x : Register) (other : Machine), other.keypad = machine.keypad →
      other.cpu.get x % 16 = machine.cpu.get x % 16 →
      ∀ word ∈ [0xE09E + 0x100 * x.val, 0xE0A1 + 0x100 * x.val],
        (other.execute rules (Instruction.decode word) = .ok other.advance ↔
          machine.execute rules (Instruction.decode word) = .ok machine.advance) := by
  refine ⟨fun i hstep => ?_, fun x y kk pair h => execute_skipPairs h rules machine, ?_⟩
  · rw [pc_step hstep]
    exact ⟨pcAfter_of_jump, pcAfter_of_jumpOffset, fun _ _ => pcAfter_of_ret, pcAfter_of_skips,
      pcAfter_of_other⟩
  · intro x other hkeypad hlow word hword
    obtain ⟨condition, hcondition, hskip⟩ : ∃ condition : Condition,
        (condition = .keyDown x ∨ condition = .keyUp x) ∧
          word = (Instruction.skip condition).encode := by
      simp only [List.mem_cons, List.not_mem_nil, or_false] at hword
      rcases hword with rfl | rfl
      · refine ⟨.keyDown x, Or.inl rfl, ?_⟩
        simp only [Instruction.encode, Instruction.digitByte]
        omega
      · refine ⟨.keyUp x, Or.inr rfl, ?_⟩
        simp only [Instruction.encode, Instruction.digitByte]
        omega
    rw [hskip, Instruction.decode_encode rfl]
    exact execute_keySkip_congr hkeypad hlow hcondition

/-- A jump with an offset leads behind the end of memory, with VF for its offset.  In the same state
`E29E` skips although V2 is far from the key that is down, which the low four bits of V2 select, and
`E2A1` does not. -/
theorem step_control_flow_beyond_memory :
    let rules : Rules := ⟨{ jumpReadsX := true }, 16⟩
    let machine : Machine :=
      { cpu := (Cpu.initial.set .flag 0xFF).set 2 0xF5
        memory := Memory.blank.store 0x200 [0xBF, 0xF0]
        screen := Screen.dark
        keypad := Keypad.released.set 5 true
        random := ⟨Vector.replicate 624 0, 0⟩ }
    (machine.step rules).value.result = .ok (.jumpOffset 0xFF0) ∧
      (machine.step rules).value.machine.cpu.pc = 0x10EF ∧
      machine.execute rules (Instruction.decode 0xE29E) = .ok machine.advance ∧
      machine.execute rules (Instruction.decode 0xE2A1) = .ok machine := by
  intro rules machine
  have hcan : machine.CanFetch := by decide
  have hword : machine.nextWord = 0xBFF0 := by decide +kernel
  have hnext : machine.nextInstruction = .jumpOffset 0xFF0 := by
    rw [nextInstruction, hword]
    decide
  have hresult : (machine.step rules).value.result = .ok (.jumpOffset 0xFF0) := by
    rw [step_of_execute_eq_ok hcan (by rw [hnext]; rfl), hnext]
  obtain ⟨hstep, hpairs, hkeys⟩ := step_control_flow rules machine
  obtain ⟨-, hoffset, -⟩ := hstep _ hresult
  -- With the number of the key itself in V2 the skip is seen at once.
  let plain : Machine := { machine with cpu := machine.cpu.set 2 5 }
  have hplain : plain.execute rules (Instruction.decode 0xE29E) = .ok plain.advance := by
    rw [show Instruction.decode 0xE29E = .skip (.keyDown 2) by decide, execute_skip_eq_advance_iff]
    decide
  have hdown : machine.execute rules (Instruction.decode 0xE29E) = .ok machine.advance :=
    (hkeys 2 plain rfl (by decide) 0xE29E (by decide)).1 hplain
  have hup : machine.execute rules (Instruction.decode 0xE2A1) = .ok machine := by
    rcases hpairs 2 0 0 (0xE29E, 0xE2A1) (by decide) with ⟨-, hup⟩ | ⟨hnot, -⟩
    · exact hup
    · have hpc : machine.cpu.pc + 2 = machine.cpu.pc :=
        congrArg (·.cpu.pc) (Except.ok.inj (hdown.symm.trans hnot))
      omega
  refine ⟨hresult, ?_, hdown, hup⟩
  rw [hoffset (by rw [hword]; decide), hword]
  decide

end Machine
end Chip8
