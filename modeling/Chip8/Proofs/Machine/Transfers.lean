import Chip8.Proofs.Machine.Bounds
import Chip8.Proofs.Memory.Image

/-!
# Registers in memory and back

`FX55` stores the registers from V0 to VX at the index, `FX65` loads them from there, and `FX33`
stores the decimal digits of VX.  If the dialect says so, the first two leave the index behind the
last byte.  `Machine.Stored` and `Machine.Loaded` say what they leave, for each in full: the one
changes bytes and the index, the other registers and the index.

What was stored is what is loaded, because both go over the same bytes: a store is refused unless
all of them lie within memory, and then the load is not refused (`Machine.execute_loadRegisters`).
An index behind these bytes is at most the end of memory, so that it is never cut to sixteen bits
(`Cpu.indexBehind_of_inside`).  Two transfers in a row go over neighbouring bytes, of which neither
touches the other's.
-/

namespace Chip8

/-! ## Registers as a list -/

namespace Cpu

variable {cpu : Cpu}

theorem isByte_of_mem_upTo (hbytes : ∀ r, IsByte (cpu.get r)) {last : Register} {value : Int}
    (hmem : value ∈ cpu.upTo last) : IsByte value := by
  obtain ⟨i, hi, rfl⟩ := List.getElem_of_mem (List.mem_of_mem_take hmem)
  rw [Vector.length_toList] at hi
  rw [Vector.getElem_toList]
  exact hbytes ⟨i, hi⟩

/-- The registers are the loaded values and, behind them, what was there before. -/
theorem toList_load (cpu : Cpu) {values : List Int} (h : values.length ≤ 16) :
    (cpu.load values).registers.toList = values ++ cpu.registers.toList.drop values.length := by
  refine List.ext_getElem ?_ fun i hi hother => ?_
  · simp only [Vector.length_toList, List.length_append, List.length_drop]
    omega
  · rw [Vector.length_toList] at hi
    have hget : (cpu.load values).get ⟨i, hi⟩ = values[i]?.getD (cpu.get ⟨i, hi⟩) :=
      get_load cpu values ⟨i, hi⟩
    rw [Vector.getElem_toList, List.getElem_append]
    refine hget.trans ?_
    split
    next hvalue => rw [List.getElem?_eq_getElem hvalue, Option.getD_some]
    next hbehind =>
      rw [List.getElem?_eq_none (by omega), Option.getD_none, List.getElem_drop,
        Vector.getElem_toList]
      have hi' : values.length + (i - values.length) = i := by omega
      simp only [hi']
      rfl

/-- The index behind registers that lie within memory. -/
theorem indexBehind_of_inside (dialect : Dialect) {last : Register}
    (h : 0 ≤ cpu.index ∧ cpu.index + last.val + 1 ≤ memorySize) :
    cpu.indexBehind dialect last =
      if dialect.transferAdvancesIndex then cpu.index + last.val + 1 else cpu.index := by
  have hsize : memorySize = 4096 := rfl
  unfold indexBehind
  split
  · omega
  · rfl

end Cpu

/-! ## The words of the transfers -/

namespace Machine

variable {rules : Rules} {machine next stored loaded : Machine} {x y : Register}

/-- A word is carried out and leaves the machine `next`. -/
def Runs (rules : Rules) (machine : Machine) (word : Nat) (next : Machine) : Prop :=
  machine.execute rules (Instruction.decode word) = .ok next

theorem runs_storeDecimal_iff :
    machine.Runs rules (0xF033 + 0x100 * x.val) next ↔
      machine.execute rules (.storeDecimal x) = .ok next := by
  have hword : 0xF033 + 0x100 * x.val = (Instruction.storeDecimal x).encode := by
    simp only [Instruction.encode, Instruction.digitByte]
    omega
  rw [Runs, hword, Instruction.decode_encode rfl]

theorem runs_storeRegisters_iff :
    machine.Runs rules (0xF055 + 0x100 * x.val) next ↔
      machine.execute rules (.storeRegisters x) = .ok next := by
  have hword : 0xF055 + 0x100 * x.val = (Instruction.storeRegisters x).encode := by
    simp only [Instruction.encode, Instruction.digitByte]
    omega
  rw [Runs, hword, Instruction.decode_encode rfl]

theorem runs_loadRegisters_iff :
    machine.Runs rules (0xF065 + 0x100 * x.val) next ↔
      machine.execute rules (.loadRegisters x) = .ok next := by
  have hword : 0xF065 + 0x100 * x.val = (Instruction.loadRegisters x).encode := by
    simp only [Instruction.encode, Instruction.digitByte]
    omega
  rw [Runs, hword, Instruction.decode_encode rfl]

/-! ## One transfer -/

/-- The bytes that `FX55` and `FX65` go over lie within memory. -/
def TransferInside (machine : Machine) (x : Register) : Prop :=
  0 ≤ machine.cpu.index ∧ machine.cpu.index + x.val + 1 ≤ memorySize

/-- The index after `FX55` or `FX65`. -/
def indexAfterTransfer (rules : Rules) (machine : Machine) (x : Register) : Int :=
  if rules.dialect.transferAdvancesIndex then machine.cpu.index + x.val + 1 else machine.cpu.index

/-- What `FX55` leaves of a machine. -/
structure Stored (rules : Rules) (machine : Machine) (x : Register) (stored : Machine) : Prop where
  inside : machine.TransferInside x
  values : stored.memory.valuesAt machine.cpu.index (x.val + 1) = machine.cpu.upTo x
  others : ∀ address : Nat, address < memorySize →
    address < machine.cpu.index ∨ machine.cpu.index + x.val < address →
    stored.memory.byteAt address = machine.memory.byteAt address
  index : stored.cpu.index = machine.indexAfterTransfer rules x
  rest : stored = { machine with
    memory := stored.memory
    cpu := { machine.cpu with index := stored.cpu.index } }

/-- What `FX65` leaves of a machine if it finds these values at the index. -/
structure Loaded (rules : Rules) (machine : Machine) (x : Register) (values : List Int)
    (loaded : Machine) : Prop where
  registers : loaded.cpu.registers.toList = values ++ machine.cpu.registers.toList.drop (x.val + 1)
  count : loaded.cpu.registers.toList.length = 16
  index : loaded.cpu.index = machine.indexAfterTransfer rules x
  rest : loaded = { machine with
    cpu := { machine.cpu with registers := loaded.cpu.registers, index := loaded.cpu.index } }

theorem stored_of_execute (hbytes : ∀ r, IsByte (machine.cpu.get r))
    (hexec : machine.execute rules (.storeRegisters x) = .ok stored) :
    Stored rules machine x stored := by
  simp only [execute, bind_pure_comp, map_eq_ok_iff] at hexec
  obtain ⟨memory, hwrite, rfl⟩ := hexec
  have hlength := length_upTo machine.cpu x
  obtain ⟨hlow, hhigh, -⟩ := Memory.writeBlock_eq_ok_iff.1 hwrite
  have hinside : machine.TransferInside x := ⟨hlow, by omega⟩
  have hvalues := Memory.valuesAt_of_writeBlock hwrite
    fun value hmem => Cpu.isByte_of_mem_upTo hbytes hmem
  rw [hlength] at hvalues
  exact {
    inside := hinside
    values := hvalues
    others := fun address haddress hout => Memory.byteAt_of_writeBlock hwrite haddress (by omega)
    index := Cpu.indexBehind_of_inside rules.dialect hinside
    rest := rfl }

/-- Registers are loaded if their bytes lie within memory. -/
theorem execute_loadRegisters (rules : Rules) (hinside : machine.TransferInside x) :
    ∃ loaded, machine.execute rules (.loadRegisters x) = .ok loaded ∧
      Loaded rules machine x (machine.memory.valuesAt machine.cpu.index (x.val + 1)) loaded := by
  have hend : machine.cpu.index + (x.val + 1 : Nat) ≤ memorySize := by
    have hhigh := hinside.2
    omega
  obtain ⟨bytes, hread, hvalues⟩ :=
    machine.memory.readBlock_eq_ok_valuesAt ⟨hinside.1, hend⟩
  let values := machine.memory.valuesAt machine.cpu.index (x.val + 1)
  let index := machine.cpu.indexBehind rules.dialect x
  have hlength : values.length = x.val + 1 := Memory.length_valuesAt _ _ _
  have hregisters : (machine.cpu.load values).registers.toList = _ :=
    machine.cpu.toList_load (by omega)
  rw [hlength] at hregisters
  have hexec : machine.execute rules (.loadRegisters x) =
      .ok { machine with cpu := { machine.cpu.load values with index } } := by
    simp only [execute, bind_pure_comp, map_eq_ok_iff]
    exact ⟨bytes, hread, by rw [hvalues]⟩
  exact ⟨_, hexec, {
    registers := hregisters
    count := Vector.length_toList
    index := Cpu.indexBehind_of_inside rules.dialect hinside
    rest := rfl }⟩

/-! ## What was stored is loaded -/

/-- Of the values at the index each goes into the register of its place. -/
theorem Loaded.get_of_lt {values : List Int} (h : Loaded rules machine x values loaded)
    {r : Register} (hr : r.val < values.length) : loaded.cpu.get r = values[r.val] := by
  have hlist : loaded.cpu.registers.toList[r.val]? = some (loaded.cpu.get r) := by
    rw [Vector.getElem?_toList]
    exact Vector.getElem?_eq_getElem r.isLt
  rw [h.registers, List.getElem?_append_left hr, List.getElem?_eq_getElem hr,
    Option.some.injEq] at hlist
  exact hlist.symm

/-- A load finds the values that stand at the index. -/
theorem exists_loaded {values : List Int} (rules : Rules) (hinside : machine.TransferInside x)
    {other : Machine} (hindex : other.cpu.index = machine.cpu.index)
    (hvalues : other.memory.valuesAt machine.cpu.index (x.val + 1) = values) :
    ∃ loaded, other.Runs rules (0xF065 + 0x100 * x.val) loaded ∧
      Loaded rules other x values loaded := by
  have hother : other.TransferInside x := by
    unfold TransferInside
    rw [hindex]
    exact hinside
  obtain ⟨loaded, hexec, hloaded⟩ := execute_loadRegisters rules hother
  rw [hindex, hvalues] at hloaded
  exact ⟨loaded, runs_loadRegisters_iff.2 hexec, hloaded⟩

/-- The digits of a byte are stored, which are at most nine each and make up the byte. -/
theorem valuesAt_of_execute_storeDecimal {digits : Machine} (hbyte : IsByte (machine.cpu.get x))
    (hexec : machine.execute rules (.storeDecimal x) = .ok digits) :
    machine.TransferInside 2 ∧
      digits = { machine with memory := digits.memory } ∧
      digits.memory.valuesAt machine.cpu.index 3 = decimalDigits (machine.cpu.get x) := by
  simp only [execute, bind_pure_comp, map_eq_ok_iff] at hexec
  obtain ⟨memory, hwrite, rfl⟩ := hexec
  have hlength : (decimalDigits (machine.cpu.get x)).length = 3 := rfl
  obtain ⟨hlow, hhigh, -⟩ := Memory.writeBlock_eq_ok_iff.1 hwrite
  unfold IsByte at hbyte
  have hdigits : ∀ digit ∈ decimalDigits (machine.cpu.get x), 0 ≤ digit ∧ digit ≤ 255 := by
    intro digit hmem
    simp only [decimalDigits, List.mem_cons, List.not_mem_nil, or_false] at hmem
    rcases hmem with rfl | rfl | rfl <;> omega
  refine ⟨⟨hlow, ?_⟩, rfl, Memory.valuesAt_of_writeBlock hwrite hdigits⟩
  rw [hlength] at hhigh
  change machine.cpu.index + 2 + 1 ≤ memorySize
  omega

theorem indexAfterTransfer_of_advances (h : rules.dialect.transferAdvancesIndex = true)
    (machine : Machine) (x : Register) :
    machine.indexAfterTransfer rules x = machine.cpu.index + x.val + 1 := by
  unfold indexAfterTransfer
  rw [if_pos h]

/-- Two stores in a row put their registers one behind the other, and leave all other bytes. -/
theorem stored_behind {first middle second : Machine}
    (hadvances : rules.dialect.transferAdvancesIndex = true) (hfirst : Stored rules machine x first)
    (hmemory : middle.memory = first.memory) (hindex : middle.cpu.index = first.cpu.index)
    (hsecond : Stored rules middle y second) :
    second.memory.valuesAt machine.cpu.index (x.val + 1) = machine.cpu.upTo x ∧
      second.memory.valuesAt (machine.cpu.index + x.val + 1) (y.val + 1) = middle.cpu.upTo y ∧
      ∀ address : Nat, address < memorySize →
        address < machine.cpu.index ∨ machine.cpu.index + x.val + y.val + 1 < address →
        second.memory.byteAt address = machine.memory.byteAt address := by
  obtain ⟨hlow, hhigh⟩ := hfirst.inside
  have hbehind : middle.cpu.index = machine.cpu.index + x.val + 1 := by
    rw [hindex, hfirst.index, indexAfterTransfer_of_advances hadvances]
  refine ⟨?_, ?_, fun address haddress hout => ?_⟩
  · rw [← hfirst.values, ← hmemory]
    refine Memory.valuesAt_congr fun i hi => ?_
    exact hsecond.others _ (by omega) (Or.inl (by omega))
  · rw [← hbehind]
    exact hsecond.values
  · rw [hsecond.others address haddress (by omega), hmemory]
    exact hfirst.others address haddress (by omega)

/-- With bytes in the registers, `FX55` stores those up to VX at the index and behind it, and
nothing else; the index moves behind them if the dialect says so, and is not cut.  Whatever becomes
of the machine then, once its memory and the first index are there again `FX65` loads the stored
values, leaves the other registers and memory, and there are still sixteen registers.

In a dialect that moves the index a second store goes on where the first one ended, whatever became
of the registers in between, and two loads from the first index find what the two stores put there.

`FX33` stores digits, which `F265` loads from the same index: three numbers of at most nine that
make up the value. -/
theorem transfers_round_trip (rules : Rules) (machine : Machine) (x : Register)
    (hbytes : ∀ r, IsByte (machine.cpu.get r)) :
    (∀ stored, machine.Runs rules (0xF055 + 0x100 * x.val) stored →
      Stored rules machine x stored ∧
        ∀ other : Machine, other.memory = stored.memory → other.cpu.index = machine.cpu.index →
          ∃ loaded, other.Runs rules (0xF065 + 0x100 * x.val) loaded ∧
            Loaded rules other x (machine.cpu.upTo x) loaded) ∧
    (rules.dialect.transferAdvancesIndex = true → ∀ (y : Register) (first middle second : Machine),
      machine.Runs rules (0xF055 + 0x100 * x.val) first →
      middle.memory = first.memory → middle.cpu.index = first.cpu.index →
      (∀ r, IsByte (middle.cpu.get r)) →
      middle.Runs rules (0xF055 + 0x100 * y.val) second →
      second.memory.valuesAt machine.cpu.index (x.val + y.val + 2) =
          machine.cpu.upTo x ++ middle.cpu.upTo y ∧
        (∀ address : Nat, address < memorySize →
          address < machine.cpu.index ∨ machine.cpu.index + x.val + y.val + 1 < address →
          second.memory.byteAt address = machine.memory.byteAt address) ∧
        second.cpu.index = machine.cpu.index + x.val + y.val + 2 ∧
        ∀ other : Machine, other.memory = second.memory → other.cpu.index = machine.cpu.index →
          ∃ early late, other.Runs rules (0xF065 + 0x100 * x.val) early ∧
            Loaded rules other x (machine.cpu.upTo x) early ∧
            early.Runs rules (0xF065 + 0x100 * y.val) late ∧
            Loaded rules early y (middle.cpu.upTo y) late) ∧
    ∀ digits, machine.Runs rules (0xF033 + 0x100 * x.val) digits →
      ∀ other : Machine, other.memory = digits.memory → other.cpu.index = digits.cpu.index →
        ∃ loaded, other.Runs rules 0xF265 loaded ∧
          (∀ r : Register, r.val ≤ 2 → 0 ≤ loaded.cpu.get r ∧ loaded.cpu.get r ≤ 9) ∧
          100 * loaded.cpu.get 0 + 10 * loaded.cpu.get 1 + loaded.cpu.get 2 =
            machine.cpu.get x := by
  refine ⟨fun stored hstore => ?_, fun hadvances y first middle second hfirst hmemory hindex
    hmiddle hsecond => ?_, fun digits hdigits other hmemory hindex => ?_⟩
  · rw [runs_storeRegisters_iff] at hstore
    have hstored := stored_of_execute hbytes hstore
    refine ⟨hstored, fun other hmemory hindex => ?_⟩
    refine exists_loaded rules hstored.inside hindex ?_
    rw [hmemory]
    exact hstored.values
  · rw [runs_storeRegisters_iff] at hfirst hsecond
    have hstored := stored_of_execute hbytes hfirst
    have hstored' := stored_of_execute hmiddle hsecond
    have hbehind : middle.cpu.index = machine.cpu.index + x.val + 1 := by
      rw [hindex, hstored.index, indexAfterTransfer_of_advances hadvances]
    obtain ⟨hfront, hback, hothers⟩ :=
      stored_behind hadvances hstored hmemory hindex hstored'
    refine ⟨?_, hothers, ?_, fun other hother hstart => ?_⟩
    · have hcount : x.val + y.val + 2 = x.val + 1 + (y.val + 1) := by omega
      have hplace : machine.cpu.index + (x.val + 1 : Nat) = machine.cpu.index + x.val + 1 := by
        omega
      rw [hcount, Memory.valuesAt_add _ hstored.inside.1, hplace, hfront, hback]
    · rw [hstored'.index, indexAfterTransfer_of_advances hadvances, hbehind]
      omega
    · rw [← hother] at hfront hback
      obtain ⟨early, hearly, hloaded⟩ := exists_loaded rules hstored.inside hstart hfront
      have hnext : early.cpu.index = middle.cpu.index := by
        rw [hloaded.index, indexAfterTransfer_of_advances hadvances, hstart, hbehind]
      have hkept : early.memory = other.memory := by rw [hloaded.rest]
      rw [← hkept, ← hbehind] at hback
      obtain ⟨late, hlate, hloaded'⟩ := exists_loaded rules hstored'.inside hnext hback
      exact ⟨early, late, hearly, hloaded, hlate, hloaded'⟩
  · rw [runs_storeDecimal_iff] at hdigits
    obtain ⟨hinside, hrest, hvalues⟩ := valuesAt_of_execute_storeDecimal (hbytes x) hdigits
    have hstart : other.cpu.index = machine.cpu.index := by rw [hindex, hrest]
    rw [← hmemory] at hvalues
    obtain ⟨loaded, hruns, hloaded⟩ := exists_loaded rules hinside hstart hvalues
    have hbyte := hbytes x
    have hhundreds : loaded.cpu.get 0 = machine.cpu.get x / 100 :=
      hloaded.get_of_lt (show 0 < 3 by decide)
    have htens : loaded.cpu.get 1 = machine.cpu.get x / 10 % 10 :=
      hloaded.get_of_lt (show 1 < 3 by decide)
    have hones : loaded.cpu.get 2 = machine.cpu.get x % 10 :=
      hloaded.get_of_lt (show 2 < 3 by decide)
    have hfirstThree : ∀ r : Register, r.val ≤ 2 → r = 0 ∨ r = 1 ∨ r = 2 := by decide
    unfold IsByte at hbyte
    refine ⟨loaded, hruns, fun r hr => ?_, by omega⟩
    rcases hfirstThree r hr with rfl | rfl | rfl <;> omega

/-- Two stores of two registers each fill memory to its last byte, with other values in the
registers for the second one.  The digits of 200 go to the same place. -/
theorem transfers_round_trip_at_end :
    let rules : Rules := ⟨{ transferAdvancesIndex := true }, 16⟩
    let early : Cpu := { (Cpu.initial.set 0 7).set 1 200 with index := 0xFFC }
    let late : Cpu := { early.set 0 9 with index := 0xFFE }
    let machine : Machine := ⟨early, .blank, Screen.dark, .released, ⟨Vector.replicate 624 0, 0⟩⟩
    (∀ r, IsByte (machine.cpu.get r)) ∧
      ∃ first second digits loaded : Machine,
        machine.Runs rules 0xF155 first ∧
        Machine.Runs rules { first with cpu := late } 0xF155 second ∧
        second.memory.valuesAt 0xFFC 4 = [7, 200, 9, 200] ∧ second.cpu.index = 0x1000 ∧
        (∃ again, Machine.Runs rules { first with cpu := early.set 1 3 } 0xF165 again ∧
          again.cpu.registers.toList.take 3 = [7, 200, 0]) ∧
        machine.Runs rules 0xF133 digits ∧ digits.Runs rules 0xF265 loaded ∧
        100 * loaded.cpu.get 0 + 10 * loaded.cpu.get 1 + loaded.cpu.get 2 = 200 := by
  intro rules early late machine
  have hearly : ∀ r, IsByte (early.get r) := by
    unfold IsByte
    decide
  have hlate : ∀ r, IsByte (late.get r) := by
    unfold IsByte
    decide
  obtain ⟨hone, htwo, hdecimal⟩ := transfers_round_trip rules machine 1 hearly
  obtain ⟨first, hfirst⟩ : ∃ first, machine.Runs rules 0xF155 first :=
    ⟨_, (@runs_storeRegisters_iff rules machine _ 1).2 rfl⟩
  let middle : Machine := { first with cpu := late }
  obtain ⟨second, hsecond⟩ : ∃ second, middle.Runs rules 0xF155 second :=
    ⟨_, (@runs_storeRegisters_iff rules middle _ 1).2 rfl⟩
  obtain ⟨digits, hdigits⟩ : ∃ digits, machine.Runs rules 0xF133 digits :=
    ⟨_, (@runs_storeDecimal_iff rules machine _ 1).2 rfl⟩
  obtain ⟨hstored, hload⟩ := hone first hfirst
  obtain ⟨again, hagain, hloaded⟩ := hload { first with cpu := early.set 1 3 } rfl rfl
  obtain ⟨hvalues, -, hindex, -⟩ :=
    htwo rfl 1 first middle second hfirst rfl hstored.index.symm hlate hsecond
  obtain ⟨loaded, hruns, -, hvalue⟩ := hdecimal digits hdigits digits rfl rfl
  have hboth : early.upTo 1 ++ late.upTo 1 = [7, 200, 9, 200] := by decide
  have hkept : (early.upTo 1 ++ (early.set 1 3).registers.toList.drop 2).take 3 = [7, 200, 0] := by
    decide
  exact ⟨hearly, first, second, digits, loaded, hfirst, hsecond, hvalues.trans hboth, hindex,
    ⟨again, hagain, (congrArg (List.take 3) hloaded.registers).trans hkept⟩, hdigits, hruns, hvalue⟩

end Machine
end Chip8
