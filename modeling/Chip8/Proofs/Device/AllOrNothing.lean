import Chip8.Device

/-!
# What a host asks for is done in full or not at all

A program, a font or a key may be refused.  Each of these requests works on the device step by step,
and what it did by the time it breaks off would stay.  The equations here say that there is nothing
of that kind.  For a font and a key this is so because the only check comes first.  A program is
checked twice, and the second time the device is reset already; but what passed the check of the
device passes the check of its memory (`Device.loadRom_eq_ok`).
-/

namespace Chip8
namespace Device

/-- What passed the check of a device passes the check of its memory. -/
theorem loadRom_eq_ok (memory : Memory memorySize) (rom : Rom) :
    memory.loadRom rom.bytes = .ok (memory.copyRom rom.bytes) := by
  have hlimit : Memory.romLimit memorySize = maxRomSize := by decide
  have hfits := rom.fits
  unfold Memory.loadRom
  rw [if_neg (by rw [hlimit]; omega)]

/-- To work on memory in one go is to do so on the device. -/
theorem onMemory_whole (f : Memory memorySize → Except Error (Logged (Memory memorySize))) :
    onMemory (.whole f) = .whole fun device =>
      ((fun memory => { device with machine := { device.machine with memory } }) <$> ·) <$>
        f device.machine.memory :=
  Attempt.within_whole (fun _ => rfl) f

theorem attemptLoadRom_eq_whole (data : List UInt8) :
    attemptLoadRom data = .whole fun device => device.loadRom data := by
  by_cases hfits : data.length ≤ maxRomSize
  · -- Nothing behind the first check is refused, so the reset that comes first is not left alone.
    have hmemory : onMemory (Memory.attemptLoadRom data) = .proceed fun device =>
        (fun memory => { device with machine := { device.machine with memory } }) <$>
          device.machine.memory.copyRom data := by
      rw [Memory.attemptLoadRom_eq_whole, onMemory_whole, Attempt.proceed_eq_whole]
      refine congrArg Attempt.whole (funext fun device => ?_)
      rw [loadRom_eq_ok _ ⟨data, hfits⟩]
      rfl
    have hrom : Rom.ofBytes data = .ok ⟨data, hfits⟩ := dif_pos hfits
    simp only [attemptLoadRom, hmemory, Attempt.change, Attempt.report,
      Attempt.proceed_bind_proceed, Attempt.refuseIf_bind_proceed, loadRom, hrom,
      if_neg (Nat.not_lt.2 hfits)]
    rfl
  · have hrom : Rom.ofBytes data = .error (.romTooLarge data.length maxRomSize) := dif_neg hfits
    simp only [attemptLoadRom, Attempt.refuseIf, if_pos (Nat.not_le.1 hfits), loadRom, hrom]
    rfl

theorem attemptLoadFont_eq_whole (offset : Int) (font : Option Font) :
    attemptLoadFont offset font =
      .whole fun device => .silent <$> device.loadFont offset font := by
  simp only [attemptLoadFont, Memory.attemptLoadFont_eq_whole, onMemory_whole,
    Attempt.state_bind_whole]
  refine congrArg Attempt.whole (funext fun device => ?_)
  simp only [loadFont]
  cases device.machine.memory.loadFont offset (font.getD device.machine.memory.font) <;> rfl

theorem attemptReportKey_eq_whole (id : Int) (pressed : Bool) :
    attemptReportKey id pressed = .whole fun device => device.reportKey id pressed := by
  unfold attemptReportKey reportKey
  cases Key.ofInt? id <;> rfl

end Device
end Chip8
