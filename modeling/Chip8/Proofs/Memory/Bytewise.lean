import Chip8.Proofs.Memory.History

/-!
# Blocks byte by byte

A block could be written, or read, one byte after the other.  The access to all of it at once comes
to the same: it is carried out just if each of its bytes could be, with the same result, and
otherwise it is refused with the address at which the bytes would have broken off.  What it adds is
that a block that is refused leaves nothing behind, where its bytes would have left those in front
of that address.

All of this goes back to one equation.  An access to some bytes is located as the first byte is, if
the bytes behind it can be located as well (`Memory.locate_succ`): the address that a refusal names
is the first one that does not exist, on whatever side of memory the access begins.
-/

namespace Chip8
namespace Memory

variable {size : Nat} {memory : Memory size} {address : Int}

/-! ## The first byte and the others -/

/-- To reach some bytes is to reach the first one and then those behind it. -/
theorem locate_succ (size : Nat) (address : Int) {length : Nat} (h : 1 ≤ length) :
    locate size address (length + 1 : Nat) = (do
      let start ← locate size address 1
      let _ ← locate size (address + 1) length
      return start) := by
  by_cases hfirst : 0 ≤ address ∧ address + 1 ≤ size
  · by_cases hrest : address + 1 + length ≤ size
    · rw [locate_of_inside hfirst, locate_of_inside ⟨by omega, hrest⟩,
        locate_of_inside ⟨hfirst.1, by omega⟩]
      rfl
    · -- The bytes behind the first one run over the end, and all of them do at the same address.
      have hall : locate size address (length + 1 : Nat) = .error (.outOfRange size) :=
        (locate_eq_error_iff hfirst.1).2 ⟨by omega, by congr 1; omega⟩
      have hbehind : locate size (address + 1) length = .error (.outOfRange size) :=
        (locate_eq_error_iff (by omega)).2 ⟨by omega, by congr 1; omega⟩
      rw [hall, locate_of_inside hfirst, hbehind]
      rfl
  · have hout (count : Int) (hcount : 1 ≤ count) :
        locate size address count = .error (.outOfRange address) := by
      unfold locate
      rw [if_pos (by omega), if_pos (by omega)]
    rw [hout _ (by omega), hout 1 (by omega)]
    rfl

/-- A single byte is refused with its own address. -/
theorem locate_one_eq_error_iff {cause : FaultCause} :
    locate size address 1 = .error cause ↔
      ¬(0 ≤ address ∧ address + 1 ≤ size) ∧ cause = .outOfRange address := by
  unfold locate
  split
  next hout =>
    rw [if_pos (by omega), Except.error.injEq]
    constructor
    · rintro rfl
      exact ⟨by omega, rfl⟩
    · rintro ⟨-, rfl⟩
      rfl
  next hin =>
    simp only [reduceCtorEq, false_iff]
    omega

theorem write_eq_error_iff {value : Int} {cause : FaultCause} :
    memory.write address value = .error cause ↔ locate size address 1 = .error cause := by
  simp only [write, bind_pure_comp, map_eq_error_iff]

/-! ## Writes one after the other -/

/-- What comes of some writes: the memory that they leave, and the cause for which the last of them
was refused, if it was. -/
structure Written (size : Nat) where
  memory : Memory size
  refusal : Option FaultCause

/-- The writes as one access, of which nothing is kept if it is refused. -/
def Written.result (written : Written size) : Except FaultCause (Memory size) :=
  match written.refusal with
  | none => .ok written.memory
  | some cause => .error cause

/-- Writes values one after the other, to an address and those behind it, up to the first that is
refused.  What was written by then stays. -/
def writeEach (memory : Memory size) (address : Int) : List Int → Written size
  | [] => ⟨memory, none⟩
  | value :: rest =>
    match memory.write address value with
    | .error cause => ⟨memory, some cause⟩
    | .ok written => written.writeEach (address + 1) rest

/-- A block of more than one byte is its first byte and the block behind it. -/
theorem writeBlock_cons (memory : Memory size) (address value next : Int) (rest : List Int) :
    memory.writeBlock address (value :: next :: rest) = (do
      let written ← memory.write address value
      written.writeBlock (address + 1) (next :: rest)) := by
  have hlocate := locate_succ size address (Nat.le_add_left 1 rest.length)
  simp only [writeBlock, write, List.length_cons]
  rw [hlocate]
  cases hfirst : locate size address 1 with
  | error cause => rfl
  | ok start =>
    cases hrest : locate size (address + 1) (rest.length + 1 : Nat) with
    | error cause => rfl
    | ok place =>
      obtain ⟨hlow, -, rfl⟩ := locate_eq_ok_iff.1 hfirst
      obtain ⟨-, -, rfl⟩ := locate_eq_ok_iff.1 hrest
      have hplace : (address + 1).toNat = address.toNat + 1 := by omega
      rw [hplace]
      rfl

theorem writeBlock_singleton (memory : Memory size) (address value : Int) :
    memory.writeBlock address [value] = memory.write address value := rfl

/-- A block is written as its bytes are, one after the other, and if one of these is refused it is
refused for the same cause. -/
theorem writeBlock_eq_result_writeEach (memory : Memory size) (address : Int) {values : List Int}
    (h : values ≠ []) :
    memory.writeBlock address values = (memory.writeEach address values).result := by
  induction values generalizing memory address with
  | nil => exact absurd rfl h
  | cons value rest ih =>
    cases rest with
    | nil =>
      rw [writeBlock_singleton, writeEach]
      cases memory.write address value <;> rfl
    | cons next rest =>
      rw [writeBlock_cons, writeEach]
      cases memory.write address value with
      | error cause => rfl
      | ok written => exact ih written (address + 1) (List.cons_ne_nil next rest)

/-- Writes break off at the first that is refused, which is refused with its own address, and leave
what those in front of it wrote. -/
theorem exists_of_refusal_writeEach {values : List Int} {cause : FaultCause}
    (h : (memory.writeEach address values).refusal = some cause) :
    ∃ (count : Nat) (hcount : count < values.length),
      let before := memory.writeEach address (values.take count)
      before.refusal = none ∧
        before.memory.write (address + count) values[count] = .error cause ∧
        cause = .outOfRange (address + count) ∧
        (memory.writeEach address values).memory = before.memory := by
  induction values generalizing memory address with
  | nil => cases h
  | cons value rest ih =>
    rw [writeEach] at h ⊢
    cases hwrite : memory.write address value with
    | error first =>
      simp only [hwrite, Option.some.injEq] at h
      subst h
      have hcause := (locate_one_eq_error_iff.1 (write_eq_error_iff.1 hwrite)).2
      refine ⟨0, Nat.zero_lt_succ _, rfl, ?_, ?_, rfl⟩
      · rw [Int.natCast_zero, Int.add_zero]
        exact hwrite
      · rw [Int.natCast_zero, Int.add_zero]
        exact hcause
    | ok written =>
      simp only [hwrite] at h
      obtain ⟨count, hcount, hbefore, hrefused, hcause, hmemory⟩ := ih h
      have haddress : address + (count + 1 : Nat) = address + 1 + count := by omega
      refine ⟨count + 1, Nat.succ_lt_succ hcount, ?_⟩
      rw [List.take_succ_cons, writeEach, hwrite, List.getElem_cons_succ, haddress]
      exact ⟨hbefore, hrefused, hcause, hmemory⟩

/-! ## Reads one after the other -/

theorem readBlock_one (memory : Memory size) (address : Int) :
    memory.readBlock address 1 = (do
      let byte ← memory.read address
      return [byte]) := by
  cases hlocate : locate size address 1 with
  | error cause =>
    simp only [readBlock, read, hlocate]
    rfl
  | ok start =>
    obtain ⟨hlow, hhigh, rfl⟩ := locate_eq_ok_iff.1 hlocate
    obtain ⟨start, rfl⟩ := Int.eq_ofNat_of_zero_le hlow
    have hend : start + 1 ≤ size := by omega
    have hblock := memory.readBlock_eq_ok hend
    simp only [read, hlocate]
    exact hblock

theorem readBlock_succ (memory : Memory size) (address : Int) {length : Nat} (h : 1 ≤ length) :
    memory.readBlock address (length + 1 : Nat) = (do
      let byte ← memory.read address
      let rest ← memory.readBlock (address + 1) length
      return byte :: rest) := by
  have hlocate := locate_succ size address h
  cases hfirst : locate size address 1 with
  | error cause =>
    rw [hfirst] at hlocate
    rw [readBlock_eq_error_iff.2 hlocate]
    simp only [read, hfirst]
    rfl
  | ok start =>
    cases hrest : locate size (address + 1) length with
    | error cause =>
      rw [hfirst, hrest] at hlocate
      rw [readBlock_eq_error_iff.2 hlocate, readBlock_eq_error_iff.2 hrest]
      simp only [read, hfirst]
      rfl
    | ok place =>
      obtain ⟨hlow, -, rfl⟩ := locate_eq_ok_iff.1 hfirst
      obtain ⟨-, hhigh, -⟩ := locate_eq_ok_iff.1 hrest
      obtain ⟨start, rfl⟩ := Int.eq_ofNat_of_zero_le hlow
      have hend : start + (length + 1) ≤ size := by omega
      have hend' : start + 1 + length ≤ size := by omega
      have hall := memory.readBlock_eq_ok hend
      have hbehind := memory.readBlock_eq_ok hend'
      rw [Int.natCast_add, Int.natCast_one] at hbehind
      rw [hall, hbehind, List.range_succ_eq_map, List.map_cons, List.map_map]
      have hshift : (fun i => memory.byteAt (start + i)) ∘ Nat.succ =
          fun i => memory.byteAt (start + 1 + i) := by
        funext i
        rw [Function.comp_apply, Nat.succ_eq_add_one, Nat.add_right_comm, Nat.add_assoc]
      rw [hshift]
      simp only [read, hfirst]
      rfl

/-- A block is read as its bytes are, one after the other. -/
theorem readBlock_eq_mapM_read (memory : Memory size) (address : Int) {length : Nat}
    (h : 1 ≤ length) :
    memory.readBlock address length =
      (List.range length).mapM fun i : Nat => memory.read (address + i) := by
  induction length generalizing address with
  | zero => omega
  | succ length ih =>
    by_cases hlength : 1 ≤ length
    · have hshift : (fun i : Nat => memory.read (address + i)) ∘ Nat.succ =
          fun i : Nat => memory.read (address + 1 + i) := by
        funext i
        have haddress : address + (i + 1 : Nat) = address + 1 + i := by omega
        rw [Function.comp_apply, Nat.succ_eq_add_one, haddress]
      rw [readBlock_succ memory address hlength, ih (address + 1) hlength]
      simp [List.range_succ_eq_map, List.mapM_map, hshift]
    · obtain rfl : length = 0 := by omega
      have hone := readBlock_one memory address
      simp [hone]

/-- A word is read as its two bytes are, the high one first. -/
theorem readWord_eq_reads (memory : Memory size) (address : Int) :
    Fin.val <$> memory.readWord address = (do
      let high ← memory.read address
      let low ← memory.read (address + 1)
      return 256 * high.toNat + low.toNat) := by
  have hlocate : locate size address 2 = _ := locate_succ size address (Nat.le_refl 1)
  rw [Int.natCast_one] at hlocate
  cases hfirst : locate size address 1 with
  | error cause =>
    rw [hfirst] at hlocate
    rw [readWord_eq_error_iff.2 hlocate]
    simp only [read, hfirst]
    rfl
  | ok start =>
    cases hsecond : locate size (address + 1) 1 with
    | error cause =>
      rw [hfirst, hsecond] at hlocate
      rw [readWord_eq_error_iff.2 hlocate]
      simp only [read, hfirst, hsecond]
      rfl
    | ok place =>
      obtain ⟨hlow, -, rfl⟩ := locate_eq_ok_iff.1 hfirst
      obtain ⟨-, hhigh, rfl⟩ := locate_eq_ok_iff.1 hsecond
      have hword (high low : UInt8) :
          (Word.ofBytes high low).val = 256 * high.toNat + low.toNat := by
        simp only [Word.ofBytes]
        omega
      have hplace : (address + 1).toNat = address.toNat + 1 := by omega
      rw [readWord_eq_ok_iff.2 ⟨hlow, by omega, rfl⟩]
      simp only [read, hfirst, hsecond, hplace]
      exact congrArg Except.ok (hword _ _)

/-! ## Blocks and bytes -/

/-- A block of one or more values is written just if its values can be written one after the other,
and leaves the memory that these leave.  Otherwise it is refused for the cause of the first of them
that is refused, which names the address of that one; and while those in front of it would have
stayed written, memory is as it was.  A block of one or more bytes is read as its bytes are, and a
word as its two, or is refused for the cause of the first of these that is refused. -/
theorem blocks_bytewise (memory : Memory size) (address : Int) :
    (∀ values : List Int, values ≠ [] →
      let sequence := memory.writeEach address values
      memory.writeBlock address values = sequence.result ∧
        ∀ cause, sequence.refusal = some cause →
          memory.next (.writeBlock address values) = memory ∧
            ∃ (count : Nat) (hcount : count < values.length),
              let before := memory.writeEach address (values.take count)
              before.refusal = none ∧
                before.memory.write (address + count) values[count] = .error cause ∧
                cause = .outOfRange (address + count) ∧ sequence.memory = before.memory) ∧
      (∀ length : Nat, 1 ≤ length →
        memory.readBlock address length =
          (List.range length).mapM fun i : Nat => memory.read (address + i)) ∧
      Fin.val <$> memory.readWord address = do
        let high ← memory.read address
        let low ← memory.read (address + 1)
        return 256 * high.toNat + low.toNat := by
  refine ⟨fun values hvalues => ?_, fun length => readBlock_eq_mapM_read memory address,
    readWord_eq_reads memory address⟩
  intro sequence
  have hblock : memory.writeBlock address values = sequence.result :=
    writeBlock_eq_result_writeEach memory address hvalues
  refine ⟨hblock, fun cause hrefusal => ⟨?_, exists_of_refusal_writeEach hrefusal⟩⟩
  have hrefused : memory.writeBlock address values = .error cause := by
    rw [hblock, Written.result, hrefusal]
  have hout : ¬(Access.writeBlock address values).Fits size := by
    intro hfits
    have hlocate := writeBlock_eq_error_iff.1 hrefused
    rw [locate_of_inside hfits] at hlocate
    cases hlocate
  exact next_of_not_fits hout

/-- Three values for the last two addresses of a memory of four bytes.  One after the other, two of
them are written; as a block, none.  A read that begins in front of memory is refused there. -/
theorem blocks_bytewise_over_end :
    let memory : Memory 4 := blank
    let sequence := memory.writeEach 2 [7, 256, 9]
    [7, 256, 9] ≠ ([] : List Int) ∧ sequence.refusal = some (.outOfRange 4) ∧
      sequence.memory.toList = [0, 0, 7, 0] ∧
      memory.writeBlock 2 [7, 256, 9] = .error (.outOfRange 4) ∧
      memory.next (.writeBlock 2 [7, 256, 9]) = memory ∧
      memory.readBlock 2 (2 : Nat) = .ok [0, 0] ∧
      memory.readBlock (-1) (3 : Nat) = .error (.outOfRange (-1)) := by
  intro memory sequence
  obtain ⟨hwrite, hread, -⟩ := blocks_bytewise memory 2
  obtain ⟨-, hbefore, -⟩ := blocks_bytewise memory (-1)
  have hvalues : [7, 256, 9] ≠ ([] : List Int) := List.cons_ne_nil _ _
  have hrefusal : sequence.refusal = some (.outOfRange 4) := by decide
  obtain ⟨hblock, hrefused⟩ := hwrite [7, 256, 9] hvalues
  have hresult : sequence.result = .error (.outOfRange 4) := by
    unfold Written.result
    rw [hrefusal]
  exact ⟨hvalues, hrefusal, by decide, hblock.trans hresult, (hrefused _ hrefusal).1,
    (hread 2 (by decide)).trans rfl, (hbefore 3 (by decide)).trans rfl⟩

end Memory
end Chip8
