import Chip8.Proofs.Memory.Image

/-!
# What memory holds after a history of accesses

A host can ask eight things of a memory of any size.  An `Access` is one of them with its arguments,
`Memory.attempt` carries it out step by step or breaks off, and `Memory.after` is the memory after a
list of accesses, each of which goes on from what the one before it left.  That nothing is left of
one that is refused is proved (`Memory.next_of_not_fits`): every access looks whether it can be
carried out before it changes the first byte (`Memory.attempt_eq_whole`).

Each access is described without a look at memory: by the condition under which it is carried out
(`Access.Fits`), and by the bytes that it puts somewhere (`Access.patch`).  Carrying it out replaces
a slice of memory by just these bytes (`Memory.next_of_fits`).  The slice is as long as the bytes,
and so memory neither grows nor shrinks.

From one access to a history goes the law of the last write (`Memory.byteAt_after`): of all accesses
that put something at an address, the last one that was carried out says what stands there.
-/

namespace Chip8

/-- A list whose elements from `start` up to `stop` have made way for others.  If these are more or
fewer, the list grows or shrinks. -/
def replaceSlice {α : Type} (list : List α) (start stop : Nat) (values : List α) : List α :=
  list.take start ++ values ++ list.drop (max start stop)

theorem length_replaceSlice {α : Type} (list : List α) (start : Nat) (values : List α)
    (h : start + values.length ≤ list.length) :
    (replaceSlice list start (start + values.length) values).length = list.length := by
  simp only [replaceSlice, List.length_append, List.length_take, List.length_drop]
  omega

/-- Something that is asked of memory. -/
inductive Access where
  | read (address : Int)
  | readWord (address : Int)
  | readBlock (address length : Int)
  | write (address value : Int)
  | writeBlock (address : Int) (values : List Int)
  | clear
  | loadRom (data : List UInt8)
  | loadFont (offset : Int) (font : Font)

namespace Access

/-- The condition under which a memory of `size` bytes carries an access out. -/
def Fits (size : Nat) : Access → Prop
  | read address => 0 ≤ address ∧ address + 1 ≤ size
  | readWord address => 0 ≤ address ∧ address + 2 ≤ size
  | readBlock address length => 0 ≤ address ∧ address + length ≤ size
  | write address _ => 0 ≤ address ∧ address + 1 ≤ size
  | writeBlock address values => 0 ≤ address ∧ address + values.length ≤ size
  | clear => True
  | loadRom data => (data.length : Int) ≤ min 3584 ((size : Int) - 512)
  | loadFont offset _ => 0 ≤ offset ∧ offset + 80 ≤ size

instance (size : Nat) (access : Access) : Decidable (access.Fits size) := by
  cases access <;> unfold Fits <;> infer_instance

/-- Bytes and where they are put. -/
structure Patch where
  start : Nat
  bytes : List UInt8
  deriving DecidableEq

/-- The byte that a patch puts at an address, if it reaches it. -/
def Patch.at? (patch : Patch) (address : Nat) : Option UInt8 :=
  if patch.start ≤ address then patch.bytes[address - patch.start]? else none

/-- A number modulo 256. -/
def lowByte (value : Int) : UInt8 :=
  UInt8.ofNat (value % 256).toNat

/-- What an access puts into a memory of `size` bytes. -/
def patch (size : Nat) : Access → Patch
  | read _ | readWord _ | readBlock _ _ => ⟨0, []⟩
  | write address value => ⟨address.toNat, [lowByte value]⟩
  | writeBlock address values => ⟨address.toNat, values.map lowByte⟩
  | clear => ⟨0, List.replicate size 0⟩
  | loadRom data => ⟨512, data⟩
  | loadFont offset font => ⟨offset.toNat, font.glyphs⟩

/-- The font that an access puts into memory, and where. -/
def font? : Access → Option (Font × Int)
  | loadFont offset font => some (font, offset)
  | _ => none

/-- What an access puts on record when it is carried out. -/
def remarks : Access → Array Log.Entry
  | loadRom data => #[.romCopied data.length programStart]
  | _ => #[]

/-- What an access puts at an address of a memory of `size` bytes, if it is carried out and reaches
the address. -/
def given? (size address : Nat) (access : Access) : Option UInt8 :=
  if access.Fits size then (access.patch size).at? address else none

theorem patch_inside {size : Nat} {access : Access} (h : access.Fits size) :
    (access.patch size).start + (access.patch size).bytes.length ≤ size := by
  cases access with
  | read | readWord | readBlock => exact Nat.zero_le _
  | write | writeBlock | loadRom =>
    simp only [Fits] at h
    simp only [patch, List.length_map, List.length_singleton]
    omega
  | clear => simp [patch]
  | loadFont offset font =>
    simp only [Fits] at h
    have hsize : font.glyphs.length = 80 := Font.length_glyphs font
    simp only [patch, hsize]
    omega

end Access

namespace Memory

variable {size : Nat} {memory : Memory size}

/-! ## One access -/

/-- A refused access in the terms of a host. -/
def hostError (cause : FaultCause) : Error :=
  .fault ⟨cause, none⟩

/-- Looks at memory and leaves it as it is. -/
def look {α : Type} (x : Memory size → Except FaultCause α) :
    Attempt FaultCause (Memory size) Unit := do
  let memory ← Attempt.state
  let _ ← Attempt.check (x memory)

/-- Carries an access out, or breaks off. -/
def attempt : Access → Attempt Error (Memory size) Unit
  | .read address => EStateM.adaptExcept hostError (look (·.read address))
  | .readWord address => EStateM.adaptExcept hostError (look (·.readWord address))
  | .readBlock address length => EStateM.adaptExcept hostError (look (·.readBlock address length))
  | .write address value => EStateM.adaptExcept hostError (attemptWrite address value)
  | .writeBlock address values => EStateM.adaptExcept hostError (attemptWriteBlock address values)
  | .clear => Attempt.change clear
  | .loadRom data => attemptLoadRom data
  | .loadFont offset font => attemptLoadFont offset font

/-- The memory that an access leaves, whether it was carried out or broke off. -/
def next (memory : Memory size) (access : Access) : Memory size :=
  (Attempt.left ((attempt access).on memory)).value

/-- The memory after some accesses. -/
def after (memory : Memory size) (accesses : List Access) : Memory size :=
  accesses.foldl next memory

theorem locate_of_inside {address length : Int} (h : 0 ≤ address ∧ address + length ≤ size) :
    locate size address length = .ok address.toNat :=
  locate_eq_ok_iff.2 ⟨h.1, h.2, rfl⟩

theorem exists_locate_error {address length : Int} (h : ¬(0 ≤ address ∧ address + length ≤ size)) :
    ∃ cause, locate size address length = .error cause := by
  cases hlocate : locate size address length with
  | error cause => exact ⟨cause, rfl⟩
  | ok start =>
    obtain ⟨hlow, hhigh, -⟩ := locate_eq_ok_iff.1 hlocate
    exact absurd ⟨hlow, hhigh⟩ h

/-- Zeroing every byte is storing zeros from the first address to the last. -/
theorem clear_eq_store (memory : Memory size) :
    memory.clear = memory.store 0 (List.replicate size 0) := by
  have hbytes : memory.clear.bytes = (memory.store 0 (List.replicate size 0)).bytes := by
    apply Vector.ext
    intro i hi
    have hstored := getElem?_bytes_store memory 0 (List.replicate size 0) i
    rw [if_pos (by simpa using hi), List.getElem?_replicate, if_pos (by omega),
      Vector.getElem?_eq_getElem hi, Option.some.injEq] at hstored
    rw [hstored]
    exact Vector.getElem_replicate hi
  have hfont := font_store memory 0 (List.replicate size 0)
  have hoffset := fontOffset_store memory 0 (List.replicate size 0)
  calc memory.clear
    _ = ⟨memory.clear.bytes, memory.font, memory.fontOffset⟩ := rfl
    _ = memory.store 0 (List.replicate size 0) := by rw [hbytes, ← hfont, ← hoffset]

/-- The memory that an access leaves if it is carried out: its bytes are stored, and its font is
noted. -/
def patched (memory : Memory size) (access : Access) : Memory size :=
  let patch := access.patch size
  let stored := memory.store patch.start patch.bytes
  match access.font? with
  | some (font, offset) => { stored with font, fontOffset := offset.toNat }
  | none => stored

/-- What an access comes to, seen from its end. -/
def outcome (memory : Memory size) : Access → Except Error (Logged (Memory size))
  | .read address => ((fun _ => .silent memory) <$> memory.read address).mapError hostError
  | .readWord address => ((fun _ => .silent memory) <$> memory.readWord address).mapError hostError
  | .readBlock address length =>
    ((fun _ => .silent memory) <$> memory.readBlock address length).mapError hostError
  | .write address value => (.silent <$> memory.write address value).mapError hostError
  | .writeBlock address values =>
    (.silent <$> memory.writeBlock address values).mapError hostError
  | .clear => .ok (.silent memory.clear)
  | .loadRom data => memory.loadRom data
  | .loadFont offset font => .silent <$> memory.loadFont offset font

/-- Every access is carried out in full or not at all. -/
theorem attempt_eq_whole (access : Access) :
    attempt access = .whole fun memory : Memory size => memory.outcome access := by
  cases access with
  | read address | readWord address | readBlock address length =>
    exact (congrArg _ (Attempt.state_bind_check _)).trans (Attempt.adaptExcept_whole _ _)
  | write address value =>
    exact (congrArg _ (attemptWrite_eq_whole _ _)).trans (Attempt.adaptExcept_whole _ _)
  | writeBlock address values =>
    exact (congrArg _ (attemptWriteBlock_eq_whole _ _)).trans (Attempt.adaptExcept_whole _ _)
  | clear => rfl
  | loadRom data => exact attemptLoadRom_eq_whole data
  | loadFont offset font => exact attemptLoadFont_eq_whole offset font

theorem outcome_of_fits {access : Access} (h : access.Fits size) :
    memory.outcome access = .ok ⟨memory.patched access, access.remarks⟩ := by
  cases access with
  | read address =>
    have hread : memory.read address = .ok (memory.byteAt address.toNat) := by
      simp only [read, locate_of_inside h]
      rfl
    simp only [outcome, hread]
    rfl
  | readWord address =>
    have hread : memory.readWord address = .ok _ := readWord_eq_ok_iff.2 ⟨h.1, h.2, rfl⟩
    simp only [outcome, hread]
    rfl
  | readBlock address length =>
    simp only [outcome, readBlock, locate_of_inside h]
    rfl
  | write address value =>
    simp only [outcome, write, locate_of_inside h]
    rfl
  | writeBlock address values =>
    simp only [outcome, writeBlock, locate_of_inside h]
    rfl
  | clear => exact congrArg (Except.ok ∘ Traced.silent) (clear_eq_store memory)
  | loadRom data =>
    have hlimit : ¬romLimit size < data.length := Int.not_lt.2 h
    simp only [outcome, loadRom, if_neg hlimit]
    rfl
  | loadFont offset font =>
    have hinside : ¬(offset < 0 ∨ (size : Int) < offset + Font.size) := by
      have hsize : Font.size = 80 := rfl
      simp only [Access.Fits] at h
      omega
    simp only [outcome, loadFont, if_neg hinside]
    rfl

theorem outcome_of_not_fits (memory : Memory size) {access : Access} (h : ¬access.Fits size) :
    ∃ reason, memory.outcome access = .error reason := by
  cases access with
  | read address | readWord address | readBlock address length | write address value
  | writeBlock address values =>
    obtain ⟨cause, hlocate⟩ := exists_locate_error h
    refine ⟨.fault ⟨cause, none⟩, ?_⟩
    simp only [outcome, read, readWord, readBlock, write, writeBlock, hlocate]
    rfl
  | clear => exact absurd trivial h
  | loadRom data =>
    have hlimit : romLimit size < data.length := Int.not_le.1 h
    simp only [outcome, loadRom, if_pos hlimit]
    exact ⟨_, rfl⟩
  | loadFont offset font =>
    have houtside : offset < 0 ∨ (size : Int) < offset + Font.size := by
      have hsize : Font.size = 80 := rfl
      simp only [Access.Fits] at h
      omega
    simp only [outcome, loadFont, if_pos houtside]
    exact ⟨_, rfl⟩

theorem on_attempt_of_fits {access : Access} (h : access.Fits size) :
    (attempt access).on memory = .ok () ⟨memory.patched access, access.remarks⟩ := by
  rw [attempt_eq_whole]
  exact Attempt.on_whole_of_ok (outcome_of_fits h)

theorem on_attempt_of_not_fits (memory : Memory size) {access : Access} (h : ¬access.Fits size) :
    ∃ reason, (attempt access).on memory = .error reason (.silent memory) := by
  obtain ⟨reason, hrefused⟩ := memory.outcome_of_not_fits h
  rw [attempt_eq_whole]
  exact ⟨reason, Attempt.on_whole_of_error hrefused⟩

theorem on_attempt_eq_ok_iff {access : Access} :
    (∃ carried, (attempt access).on memory = .ok () carried) ↔ access.Fits size := by
  constructor
  · rintro ⟨carried, hcarried⟩
    by_cases hfits : access.Fits size
    · exact hfits
    · obtain ⟨reason, hrefused⟩ := memory.on_attempt_of_not_fits hfits
      rw [hrefused] at hcarried
      cases hcarried
  · intro hfits
    exact ⟨_, on_attempt_of_fits hfits⟩

/-- An access that is refused has left nothing behind. -/
theorem next_of_not_fits {access : Access} (h : ¬access.Fits size) :
    memory.next access = memory := by
  obtain ⟨reason, hrefused⟩ := memory.on_attempt_of_not_fits h
  unfold next
  rw [hrefused]
  rfl

theorem next_of_fits {access : Access} (h : access.Fits size) :
    memory.next access = memory.patched access := by
  unfold next
  rw [on_attempt_of_fits h]
  rfl

/-! ## Slices and bytes -/

/-- Storing bytes within memory replaces as many bytes as there are. -/
theorem toList_store (memory : Memory size) {start : Nat} {data : List UInt8}
    (h : start + data.length ≤ size) :
    (memory.store start data).toList =
      replaceSlice memory.toList start (start + data.length) data := by
  have hlength : memory.toList.length = size := Vector.length_toList
  refine List.ext_getElem? fun i => ?_
  have hstored : (memory.store start data).toList[i]? = _ :=
    Vector.getElem?_toList.trans (getElem?_bytes_store memory start data i)
  have hbefore : memory.toList[i]? = memory.bytes[i]? := Vector.getElem?_toList
  rw [hstored, replaceSlice, List.append_assoc, List.getElem?_append, List.getElem?_append,
    List.getElem?_drop, List.length_take, hlength, Nat.min_eq_left (by omega)]
  by_cases hlow : i < start
  · rw [if_neg (by omega), if_pos hlow, List.getElem?_take_of_lt hlow, hbefore]
  · rw [if_neg hlow]
    by_cases hhigh : i - start < data.length
    · rw [if_pos (by omega), if_pos hhigh]
    · rw [if_neg (by omega), if_neg hhigh, ← hbefore]
      congr 1
      omega

theorem toList_patched (memory : Memory size) (access : Access) :
    (memory.patched access).toList =
      (memory.store (access.patch size).start (access.patch size).bytes).toList := by
  unfold patched
  cases access.font? <;> rfl

theorem byteAt_patched (memory : Memory size) (access : Access) {address : Nat}
    (h : address < size) :
    (memory.patched access).byteAt address =
      ((access.patch size).at? address).getD (memory.byteAt address) := by
  have hstored : (memory.patched access).byteAt address =
      (memory.store (access.patch size).start (access.patch size).bytes).byteAt address := by
    unfold patched
    cases access.font? <;> rfl
  rw [hstored, byteAt_store _ _ _ h, Access.Patch.at?]
  generalize access.patch size = patch
  by_cases hlow : patch.start ≤ address
  · rw [if_pos hlow]
    by_cases hhigh : address - patch.start < patch.bytes.length
    · rw [if_pos ⟨hlow, by omega⟩, List.getD_eq_getElem?_getD, List.getElem?_eq_getElem hhigh,
        Option.getD_some, Option.getD_some]
    · rw [if_neg (by omega), List.getElem?_eq_none (by omega), Option.getD_none]
  · rw [if_neg hlow, if_neg (fun hboth => hlow hboth.1), Option.getD_none]

/-- The note of the font is made by the access that loads one, and by no other. -/
theorem font_patched (memory : Memory size) {access : Access} (h : access.Fits size) :
    ((memory.patched access).font, ((memory.patched access).fontOffset : Int)) =
      access.font?.getD (memory.font, (memory.fontOffset : Int)) := by
  cases access with
  | loadFont offset font =>
    simp only [patched, Access.font?, Option.getD_some, Int.toNat_of_nonneg h.1]
  | _ => simp only [patched, Access.font?, font_store, fontOffset_store, Option.getD_none]

/-! ## Histories -/

theorem byteAt_next (memory : Memory size) (access : Access) {address : Nat} (h : address < size) :
    (memory.next access).byteAt address =
      (access.given? size address).getD (memory.byteAt address) := by
  unfold Access.given?
  by_cases hfits : access.Fits size
  · rw [next_of_fits hfits, byteAt_patched memory access h, if_pos hfits]
  · rw [next_of_not_fits hfits, if_neg hfits, Option.getD_none]

/-- The last access that put something at an address says what stands there, and if there is none,
what stood there before stands there still. -/
theorem byteAt_after (memory : Memory size) (accesses : List Access) {address : Nat}
    (h : address < size) :
    (memory.after accesses).byteAt address =
      ((accesses.filterMap (Access.given? size address)).getLast?).getD
        (memory.byteAt address) := by
  induction accesses generalizing memory with
  | nil => rfl
  | cons access rest ih =>
    have hrest := ih (memory.next access)
    rw [byteAt_next memory access h] at hrest
    refine hrest.trans ?_
    cases hgiven : access.given? size address with
    | none => rw [List.filterMap_cons_none hgiven, Option.getD_none]
    | some byte =>
      rw [List.filterMap_cons_some hgiven, List.getLast?_cons, Option.getD_some, Option.getD_some]

theorem byteAt_blank (address : Nat) : (blank : Memory size).byteAt address = 0 :=
  byteAt_clear blank address

/-- Whatever is asked of a memory that was zero, in whatever order, it keeps its size.  The next
access is carried out just if it fits.  Then it replaces a slice of memory by bytes of the same
number, and makes a note of the font if it loads one; and if it does not fit, it leaves memory as it
was.  So at each address the last access says what is read there that was carried out and put
something there, and if there is none, zero is read. -/
theorem accesses_last_write (size : Nat) (accesses : List Access) :
    let memory := (blank : Memory size).after accesses
    memory.toList.length = size ∧
      (∀ access : Access,
        let patch := access.patch size
        let later := memory.next access
        ((∃ carried, (attempt access).on memory = .ok () carried) ↔ access.Fits size) ∧
          (access.Fits size →
            later.toList =
                replaceSlice memory.toList patch.start (patch.start + patch.bytes.length)
                  patch.bytes ∧
              later.toList.length = memory.toList.length ∧
              (later.font, (later.fontOffset : Int)) =
                access.font?.getD (memory.font, (memory.fontOffset : Int))) ∧
          (¬access.Fits size → later = memory)) ∧
      ∀ address : Nat, address < size →
        memory.read address =
          .ok ((accesses.filterMap (Access.given? size address)).getLast?.getD 0) := by
  intro memory
  have hlength : memory.toList.length = size := Vector.length_toList
  refine ⟨hlength, fun access => ?_, fun address haddress => ?_⟩
  · intro patch later
    refine ⟨on_attempt_eq_ok_iff, fun hfits => ?_, fun hout => next_of_not_fits hout⟩
    have hinside : patch.start + patch.bytes.length ≤ size := Access.patch_inside hfits
    have hlater : later = memory.patched access := next_of_fits hfits
    have hslice : later.toList =
        replaceSlice memory.toList patch.start (patch.start + patch.bytes.length) patch.bytes := by
      rw [hlater, toList_patched]
      exact toList_store memory hinside
    refine ⟨hslice, ?_, ?_⟩
    · rw [hslice]
      exact length_replaceSlice _ _ _ (by omega)
    · rw [hlater]
      exact font_patched memory hfits
  · have hread : memory.read address = .ok (memory.byteAt address) := by
      have hlocate : locate size address 1 = .ok address :=
        locate_of_inside ⟨Int.natCast_nonneg _, by omega⟩
      simp only [read, hlocate]
      rfl
    have hbyte : memory.byteAt address = _ := byteAt_after blank accesses haddress
    rw [hread, hbyte, byteAt_blank]

/-- A memory that ends eight bytes behind the place of programs.  A font that does not fit is
refused, as is a program of nine bytes, a block that starts below zero, and one that runs over the
end. -/
theorem accesses_last_write_small :
    let accesses : List Access :=
      [.loadFont 441 .vip, .write 519 (-1), .loadRom [1, 2, 3], .loadRom (List.replicate 9 7),
        .writeBlock 513 [256, 515], .writeBlock (-1) [9, 9], .writeBlock 519 [9, 9]]
    let memory := (blank : Memory 520).after accesses
    memory.toList.length = 520 ∧
      memory.read 512 = .ok 1 ∧ memory.read 513 = .ok 0 ∧ memory.read 514 = .ok 3 ∧
      memory.read 519 = .ok 255 ∧
      (memory.next (.loadFont 440 .vip)).font = .vip ∧
      memory.next (.loadFont 441 .vip) = memory := by
  intro accesses memory
  obtain ⟨hlength, haccess, hread⟩ := accesses_last_write 520 accesses
  obtain ⟨-, hmoved, -⟩ := haccess (.loadFont 440 .vip)
  obtain ⟨-, -, hrefused⟩ := haccess (.loadFont 441 .vip)
  obtain ⟨-, -, hnote⟩ := hmoved (by decide)
  refine ⟨hlength, ?_, ?_, ?_, ?_, congrArg Prod.fst hnote, hrefused (by decide)⟩
  · exact (hread 512 (by decide)).trans (congrArg Except.ok (by decide))
  · exact (hread 513 (by decide)).trans (congrArg Except.ok (by decide))
  · exact (hread 514 (by decide)).trans (congrArg Except.ok (by decide))
  · exact (hread 519 (by decide)).trans (congrArg Except.ok (by decide))

end Memory
end Chip8
