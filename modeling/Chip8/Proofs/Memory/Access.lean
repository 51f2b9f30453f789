import Chip8.Memory

/-!
# Accesses to memory

Every access first asks `Memory.locate` whether it stays within memory.  The lemmas here say when
it does, which address a refusal names, and that the operations on words and blocks are refused in
just that case.  Nothing else about memory can fail.

For a start that is not below zero the refusal names `max address size`: the start itself if it
is behind the end already, and the first address behind the end if the access runs over it.
-/

namespace Chip8

/-! ## Results that may be refused -/

section Refusal

variable {ε α β : Type} {f : α → β} {x : Except ε α}

/-- What is done with a result adds no reason to refuse it. -/
@[simp] theorem map_eq_error_iff {reason : ε} : f <$> x = .error reason ↔ x = .error reason := by
  cases x <;> simp [Functor.map, Except.map]

theorem map_eq_ok_iff {b : β} : f <$> x = .ok b ↔ ∃ a, x = .ok a ∧ f a = b := by
  cases x <;> simp [Functor.map, Except.map]

end Refusal

namespace Memory

variable {size : Nat} {memory : Memory size}

/-! ## Locating -/

theorem locate_eq_ok_iff {address length : Int} {start : Nat} :
    locate size address length = .ok start ↔
      0 ≤ address ∧ address + length ≤ size ∧ start = address.toNat := by
  unfold locate
  split
  next h => simp only [reduceCtorEq, false_iff]; omega
  next h => simp only [Except.ok.injEq]; omega

theorem locate_eq_error_iff {address length : Int} {cause : FaultCause} (h : 0 ≤ address) :
    locate size address length = .error cause ↔
      size < address + length ∧ cause = .outOfRange (max address size) := by
  have hbad : (if address < 0 ∨ (size : Int) ≤ address then address else size) =
      max address size := by
    split <;> omega
  unfold locate
  rw [hbad]
  split
  next hout =>
    have hlt : (size : Int) < address + length := by omega
    simp only [Except.error.injEq, hlt, true_and]
    exact eq_comm
  next hin =>
    simp only [reduceCtorEq, false_iff]
    omega

/-! ## Words and blocks -/

theorem readWord_eq_error_iff {address : Int} {cause : FaultCause} :
    memory.readWord address = .error cause ↔ locate size address 2 = .error cause := by
  simp only [readWord, bind_pure_comp, map_eq_error_iff]

theorem readWord_eq_ok_iff {address : Int} {word : Word} :
    memory.readWord address = .ok word ↔
      0 ≤ address ∧ address + 2 ≤ size ∧
        Word.ofBytes (memory.byteAt address.toNat) (memory.byteAt (address.toNat + 1)) = word := by
  simp only [readWord, bind_pure_comp, map_eq_ok_iff, locate_eq_ok_iff]
  constructor
  · rintro ⟨start, ⟨hlow, hhigh, rfl⟩, hword⟩
    exact ⟨hlow, hhigh, hword⟩
  · rintro ⟨hlow, hhigh, hword⟩
    exact ⟨_, ⟨hlow, hhigh, rfl⟩, hword⟩

theorem readBlock_eq_error_iff {address length : Int} {cause : FaultCause} :
    memory.readBlock address length = .error cause ↔ locate size address length = .error cause := by
  simp only [readBlock, bind_pure_comp, map_eq_error_iff]

theorem writeBlock_eq_error_iff {address : Int} {values : List Int} {cause : FaultCause} :
    memory.writeBlock address values = .error cause ↔
      locate size address values.length = .error cause := by
  simp only [writeBlock, bind_pure_comp, map_eq_error_iff]

theorem writeBlock_eq_ok_iff {address : Int} {values : List Int} {written : Memory size} :
    memory.writeBlock address values = .ok written ↔
      0 ≤ address ∧ address + values.length ≤ size ∧
        memory.store address.toNat (values.map UInt8.ofInt) = written := by
  simp only [writeBlock, bind_pure_comp, map_eq_ok_iff, locate_eq_ok_iff]
  constructor
  · rintro ⟨start, ⟨hlow, hhigh, rfl⟩, hwritten⟩
    exact ⟨hlow, hhigh, hwritten⟩
  · rintro ⟨hlow, hhigh, hwritten⟩
    exact ⟨_, ⟨hlow, hhigh, rfl⟩, hwritten⟩

/-- A write changes bytes and nothing of the note on the font. -/
theorem font_of_writeBlock {address : Int} {values : List Int} {written : Memory size}
    (h : memory.writeBlock address values = .ok written) : written.font = memory.font := by
  obtain ⟨-, -, rfl⟩ := writeBlock_eq_ok_iff.1 h
  exact font_store _ _ _

theorem fontOffset_of_writeBlock {address : Int} {values : List Int} {written : Memory size}
    (h : memory.writeBlock address values = .ok written) :
    written.fontOffset = memory.fontOffset := by
  obtain ⟨-, -, rfl⟩ := writeBlock_eq_ok_iff.1 h
  exact fontOffset_store _ _ _

end Memory
end Chip8
