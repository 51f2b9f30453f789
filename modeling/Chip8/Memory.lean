import Chip8.Attempt
import Chip8.Font

/-!
# Memory

A `Memory size` is a store of `size` bytes at the addresses from 0 to `size - 1`, together with
a note of the font that was loaded last and of where it was put.  No operation changes the
number of bytes.

Addresses are integers, because programs and hosts may ask for any.  An access that leaves
memory is refused and changes nothing; the refusal names the first address that does not exist.
Values are integers too, and a stored byte is the value modulo 256.
-/

namespace Chip8

/-- The bytes of a standard machine. -/
def memorySize : Nat := 4096

/-- The address at which a program is loaded and at which it begins. -/
def programStart : Nat := 0x200

/-- The size of the largest program that a standard machine takes. -/
def maxRomSize : Nat := memorySize - programStart

/-- A store of `size` bytes that knows which font was loaded last, and where. -/
structure Memory (size : Nat) where
  bytes : Vector UInt8 size
  font : Font
  fontOffset : Nat
  deriving DecidableEq, Repr

namespace Memory

variable {size : Nat}

/-- Zero everywhere.  The note on the font says what a font would be if none is named. -/
def blank : Memory size :=
  ⟨Vector.replicate size 0, .chip8, 0⟩

instance : Inhabited (Memory size) := ⟨blank⟩

/-- The byte at an address, zero behind the end. -/
def byteAt (memory : Memory size) (address : Nat) : UInt8 :=
  memory.bytes[address]?.getD 0

/-- The bytes of memory in order. -/
def toList (memory : Memory size) : List UInt8 :=
  memory.bytes.toList

/-- Allows an access to `length` bytes at `address`, and gives the address as an index.  An
access beyond the end is refused with the first address that it cannot reach: its own start, or
the first address behind the end. -/
def locate (size : Nat) (address length : Int) : Except FaultCause Nat :=
  if address < 0 ∨ size < address + length then
    .error (.outOfRange (if address < 0 ∨ size ≤ address then address else size))
  else .ok address.toNat

/-- The byte at an address. -/
def read (memory : Memory size) (address : Int) : Except FaultCause UInt8 := do
  let start ← locate size address 1
  return memory.byteAt start

/-- The two bytes at an address as a word, high byte first. -/
def readWord (memory : Memory size) (address : Int) : Except FaultCause Word := do
  let start ← locate size address 2
  return Word.ofBytes (memory.byteAt start) (memory.byteAt (start + 1))

/-- Where a block of `length` bytes at `address` ends.  A block that would end before address 0
has its end counted from the end of memory instead. -/
def blockEnd (size : Nat) (address length : Int) : Int :=
  if address + length < 0 then address + length + size else address + length

/-- The bytes of a block in order.  A length below zero gives no bytes, unless the block's end
is counted from the end of memory. -/
def readBlock (memory : Memory size) (address length : Int) : Except FaultCause (List UInt8) := do
  let start ← locate size address length
  return (List.range (blockEnd size address length - start).toNat).map fun i =>
    memory.byteAt (start + i)

/-- Puts bytes at an index and behind it; what falls behind the end is dropped. -/
def store (memory : Memory size) : Nat → List UInt8 → Memory size
  | _, [] => memory
  | start, byte :: rest =>
    store { memory with bytes := memory.bytes.setIfInBounds start byte } (start + 1) rest

/-- Stores the low eight bits of a value at an address. -/
def write (memory : Memory size) (address value : Int) : Except FaultCause (Memory size) := do
  let start ← locate size address 1
  return memory.store start [UInt8.ofInt value]

/-- Stores the low eight bits of each value, in order, from an address on.  Either all are
stored or none. -/
def writeBlock (memory : Memory size) (address : Int) (values : List Int) :
    Except FaultCause (Memory size) := do
  let start ← locate size address values.length
  return memory.store start (values.map UInt8.ofInt)

/-- Zeroes every byte. -/
def clear (memory : Memory size) : Memory size :=
  { memory with bytes := Vector.replicate size 0 }

/-- Copies a font to an offset and notes that it is there. -/
def loadFont (memory : Memory size) (offset : Int) (font : Font) : Except Error (Memory size) :=
  if offset < 0 ∨ size < offset + Font.size then .error (.fontOutside offset)
  else .ok { memory.store offset.toNat font.glyphs with font, fontOffset := offset.toNat }

/-- The largest ROM that fits between `programStart` and the end of a memory, which is below
zero for a memory that ends before `programStart`. -/
def romLimit (size : Nat) : Int :=
  min maxRomSize (size - programStart)

/-- Copies a program to `programStart`. -/
def copyRom (memory : Memory size) (rom : List UInt8) : Logged (Memory size) := do
  Traced.report (.romCopied rom.length programStart)
  return memory.store programStart rom

/-- Copies a program that fits to `programStart`, and refuses any other. -/
def loadRom (memory : Memory size) (rom : List UInt8) : Except Error (Logged (Memory size)) :=
  if romLimit size < rom.length then .error (.romTooLarge rom.length (romLimit size))
  else .ok (memory.copyRom rom)

/-! ## The order of things

A host that is refused something keeps the memory that it then has.  So each operation that can be
refused is here once more as an attempt, whose steps come in the order in which they happen.  None
of them leaves anything behind when it is refused. -/

/-- `write`, step by step. -/
def attemptWrite (address value : Int) : Attempt FaultCause (Memory size) Unit := do
  let start ← Attempt.check (locate size address 1)
  Attempt.change fun memory => memory.store start [UInt8.ofInt value]

/-- `writeBlock`, step by step. -/
def attemptWriteBlock (address : Int) (values : List Int) :
    Attempt FaultCause (Memory size) Unit := do
  let start ← Attempt.check (locate size address values.length)
  Attempt.change fun memory => memory.store start (values.map UInt8.ofInt)

/-- `loadFont`, step by step. -/
def attemptLoadFont (offset : Int) (font : Font) : Attempt Error (Memory size) Unit := do
  Attempt.refuseIf (offset < 0 ∨ size < offset + Font.size) (.fontOutside offset)
  Attempt.change fun memory => memory.store offset.toNat font.glyphs
  Attempt.change fun memory => { memory with fontOffset := offset.toNat }
  Attempt.change fun memory => { memory with font }

/-- `loadRom`, step by step. -/
def attemptLoadRom (rom : List UInt8) : Attempt Error (Memory size) Unit := do
  Attempt.refuseIf (romLimit size < rom.length) (.romTooLarge rom.length (romLimit size))
  Attempt.change fun memory => memory.store programStart rom
  Attempt.report (.romCopied rom.length programStart)

theorem attemptWrite_eq_whole (address value : Int) :
    attemptWrite address value =
      .whole fun memory : Memory size => .silent <$> memory.write address value := by
  refine (Attempt.check_bind_proceed _ _).trans (congrArg Attempt.whole (funext fun memory => ?_))
  unfold write
  cases locate size address 1 <;> rfl

theorem attemptWriteBlock_eq_whole (address : Int) (values : List Int) :
    attemptWriteBlock address values =
      .whole fun memory : Memory size => .silent <$> memory.writeBlock address values := by
  refine (Attempt.check_bind_proceed _ _).trans (congrArg Attempt.whole (funext fun memory => ?_))
  unfold writeBlock
  cases locate size address values.length <;> rfl

theorem attemptLoadFont_eq_whole (offset : Int) (font : Font) :
    attemptLoadFont offset font =
      .whole fun memory : Memory size => .silent <$> memory.loadFont offset font := by
  simp only [attemptLoadFont, Attempt.change, Attempt.proceed_bind_proceed]
  refine (Attempt.refuseIf_bind_proceed _ _ _).trans
    (congrArg Attempt.whole (funext fun memory => ?_))
  unfold loadFont
  split <;> rfl

theorem attemptLoadRom_eq_whole (rom : List UInt8) :
    attemptLoadRom rom = .whole fun memory : Memory size => memory.loadRom rom := by
  simp only [attemptLoadRom, Attempt.change, Attempt.report, Attempt.proceed_bind_proceed]
  refine (Attempt.refuseIf_bind_proceed _ _ _).trans
    (congrArg Attempt.whole (funext fun memory => ?_))
  unfold loadRom
  split <;> rfl

@[simp] theorem store_nil (memory : Memory size) (start : Nat) : memory.store start [] = memory :=
  rfl

/-- After a store each index that was reached holds its byte, and every other index what it held. -/
theorem getElem?_bytes_store (memory : Memory size) (start : Nat) (data : List UInt8) (i : Nat) :
    (memory.store start data).bytes[i]? =
      if start ≤ i ∧ i < start + data.length ∧ i < size then data[i - start]?
      else memory.bytes[i]? := by
  induction data generalizing memory start with
  | nil => simp only [store, List.length_nil]; rw [if_neg (by omega)]
  | cons byte rest ih =>
    rw [store, ih]
    simp only [List.length_cons, Vector.getElem?_setIfInBounds]
    by_cases hi : i = start
    · subst hi
      by_cases hs : i < size
      · rw [if_neg (by omega), if_pos rfl, if_pos hs, if_pos (by omega)]
        simp
      · rw [if_neg (by omega), if_pos rfl, if_neg hs, if_neg (by omega)]
        simp [hs]
    · by_cases hin : start + 1 ≤ i ∧ i < start + 1 + rest.length ∧ i < size
      · rw [if_pos hin, if_pos (by omega)]
        obtain ⟨k, rfl⟩ : ∃ k, i = start + 1 + k := ⟨i - (start + 1), by omega⟩
        rw [show start + 1 + k - (start + 1) = k by omega,
          show start + 1 + k - start = k + 1 by omega, List.getElem?_cons_succ]
      · rw [if_neg hin, if_neg (Ne.symm hi), if_neg (by omega)]

/-- A store leaves the note on the font alone. -/
@[simp] theorem font_store (memory : Memory size) (start : Nat) (data : List UInt8) :
    (memory.store start data).font = memory.font := by
  induction data generalizing memory start with
  | nil => rfl
  | cons byte rest ih => rw [store, ih]

@[simp] theorem fontOffset_store (memory : Memory size) (start : Nat) (data : List UInt8) :
    (memory.store start data).fontOffset = memory.fontOffset := by
  induction data generalizing memory start with
  | nil => rfl
  | cons byte rest ih => rw [store, ih]

end Memory
end Chip8
