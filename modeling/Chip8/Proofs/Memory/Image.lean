import Chip8.Proofs.Memory.Access

/-!
# What stands in memory

Memory is read through `Memory.byteAt`.  A store puts its bytes at their addresses and leaves all
others (`Memory.byteAt_store`), and a block that lies within memory is read back byte by byte
(`Memory.readBlock_eq_ok`).  A block of bytes that was written is read back as it was
(`Memory.valuesAt_of_writeBlock`).

A font that fits is loaded by one store.  Since a load makes a new note of the font, what comes of
it depends on the bytes that were there and not on the font that was loaded before
(`Memory.loadFont_congr`).
-/

namespace Chip8
namespace Memory

variable {size : Nat} {memory : Memory size}

/-! ## Bytes -/

theorem byteAt_store (memory : Memory size) (start : Nat) (data : List UInt8) {address : Nat}
    (h : address < size) :
    (memory.store start data).byteAt address =
      if start ≤ address ∧ address < start + data.length then data.getD (address - start) 0
      else memory.byteAt address := by
  unfold byteAt
  rw [getElem?_bytes_store]
  by_cases hin : start ≤ address ∧ address < start + data.length
  · rw [if_pos hin, if_pos ⟨hin.1, hin.2, h⟩, List.getD_eq_getElem?_getD]
  · have hout : ¬(start ≤ address ∧ address < start + data.length ∧ address < size) :=
      fun hall => hin ⟨hall.1, hall.2.1⟩
    rw [if_neg hin, if_neg hout]

@[simp] theorem byteAt_clear (memory : Memory size) (address : Nat) :
    memory.clear.byteAt address = 0 := by
  unfold byteAt clear
  by_cases h : address < size
  · simp [h]
  · simp [h]

/-- A block within memory is read, byte by byte. -/
theorem readBlock_eq_ok (memory : Memory size) {start length : Nat} (h : start + length ≤ size) :
    memory.readBlock start length =
      .ok ((List.range length).map fun i => memory.byteAt (start + i)) := by
  have hlocate : locate size start length = .ok start :=
    locate_eq_ok_iff.2 ⟨by omega, by omega, by omega⟩
  have hcount : (blockEnd size start length - start).toNat = length := by
    unfold blockEnd
    split <;> omega
  unfold readBlock
  rw [hlocate]
  simp only [bind_pure_comp, map_eq_ok_iff]
  exact ⟨start, rfl, by rw [hcount]⟩

/-! ## Blocks -/

/-- The values of the bytes at an address and behind it, as many as `length`. -/
def valuesAt (memory : Memory size) (address : Int) (length : Nat) : List Int :=
  (List.range length).map fun i => ((memory.byteAt (address.toNat + i)).toNat : Int)

@[simp] theorem length_valuesAt (memory : Memory size) (address : Int) (length : Nat) :
    (memory.valuesAt address length).length = length := by
  simp [valuesAt]

theorem valuesAt_congr {first second : Memory size} {address : Int} {length : Nat}
    (h : ∀ i < length, first.byteAt (address.toNat + i) = second.byteAt (address.toNat + i)) :
    first.valuesAt address length = second.valuesAt address length := by
  refine List.map_congr_left fun i hi => ?_
  rw [h i (List.mem_range.1 hi)]

/-- The values at an address, and those behind them. -/
theorem valuesAt_add (memory : Memory size) {address : Int} (h : 0 ≤ address) (first second : Nat) :
    memory.valuesAt address (first + second) =
      memory.valuesAt address first ++ memory.valuesAt (address + first) second := by
  have haddress : (address + first).toNat = address.toNat + first := by omega
  simp only [valuesAt, List.range_add, List.map_append, List.map_map, haddress]
  simp only [Function.comp_def, Nat.add_assoc]

theorem readBlock_eq_ok_valuesAt (memory : Memory size) {address : Int} {length : Nat}
    (h : 0 ≤ address ∧ address + length ≤ size) :
    ∃ bytes, memory.readBlock address length = .ok bytes ∧
      (bytes.map fun byte => (byte.toNat : Int)) = memory.valuesAt address length := by
  obtain ⟨start, rfl⟩ := Int.eq_ofNat_of_zero_le h.1
  exact ⟨_, memory.readBlock_eq_ok (by omega), by simp [valuesAt]⟩

/-- A block that is written leaves every byte outside of it. -/
theorem byteAt_of_writeBlock {written : Memory size} {start : Int} {values : List Int}
    (h : memory.writeBlock start values = .ok written) {address : Nat} (haddress : address < size)
    (hout : address < start ∨ start + values.length ≤ address) :
    written.byteAt address = memory.byteAt address := by
  obtain ⟨hlow, -, rfl⟩ := writeBlock_eq_ok_iff.1 h
  rw [byteAt_store _ _ _ haddress, List.length_map, if_neg (by omega)]

/-- The low eight bits of a value that is a byte are the value. -/
theorem toNat_ofInt {value : Int} (h : 0 ≤ value ∧ value ≤ 255) :
    ((UInt8.ofInt value).toNat : Int) = value := by
  have hlow : (value % 2 ^ 8).toNat < 256 := by omega
  change ((UInt8.ofNat (value % 2 ^ 8).toNat).toNat : Int) = value
  rw [UInt8.toNat_ofNat_of_lt' hlow]
  omega

/-- A block of bytes is read back as it was written. -/
theorem valuesAt_of_writeBlock {written : Memory size} {address : Int} {values : List Int}
    (h : memory.writeBlock address values = .ok written)
    (hbytes : ∀ value ∈ values, 0 ≤ value ∧ value ≤ 255) :
    written.valuesAt address values.length = values := by
  obtain ⟨hlow, hhigh, rfl⟩ := writeBlock_eq_ok_iff.1 h
  refine List.ext_getElem (length_valuesAt _ _ _) fun i hi hvalue => ?_
  have hplace : address.toNat + i < size := by omega
  have hstored := memory.byteAt_store address.toNat (values.map UInt8.ofInt) hplace
  rw [List.length_map, if_pos (by omega), Nat.add_sub_cancel_left, List.getD_eq_getElem?_getD,
    List.getElem?_map, List.getElem?_eq_getElem hvalue] at hstored
  simp only [valuesAt, List.getElem_map, List.getElem_range, hstored, Option.map_some,
    Option.getD_some]
  exact toNat_ofInt (hbytes _ (List.getElem_mem hvalue))

/-! ## Fonts -/

theorem bytes_store_congr {first second : Memory size} (h : first.bytes = second.bytes)
    (start : Nat) (data : List UInt8) :
    (first.store start data).bytes = (second.store start data).bytes := by
  induction data generalizing first second start with
  | nil => exact h
  | cons byte rest ih =>
    simp only [store]
    exact ih (by rw [h]) (start + 1)

theorem loadFont_eq_ok_iff {offset : Int} {font : Font} {loaded : Memory size} :
    memory.loadFont offset font = .ok loaded ↔
      0 ≤ offset ∧ offset + Font.size ≤ size ∧
        { memory.store offset.toNat font.glyphs with font, fontOffset := offset.toNat } =
          loaded := by
  unfold loadFont
  split
  next hout =>
    simp only [reduceCtorEq, false_iff]
    omega
  next hin =>
    simp only [Except.ok.injEq]
    constructor
    · intro hloaded
      exact ⟨by omega, by omega, hloaded⟩
    · rintro ⟨-, -, hloaded⟩
      exact hloaded

/-- What a load of a font makes of memory does not depend on the font that was loaded before. -/
theorem loadFont_congr {first second : Memory size} (h : first.bytes = second.bytes)
    (offset : Int) (font : Font) : first.loadFont offset font = second.loadFont offset font := by
  simp only [loadFont, bytes_store_congr h]

end Memory
end Chip8
