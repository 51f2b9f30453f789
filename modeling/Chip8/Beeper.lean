import Chip8.Effect

/-!
# The beeper

The beeper plays one looped tone while it is told to be active.  The tone is a tenth of a second
of a square wave (`Beeper.wave`): the samples stand at -8000 in the first half of a period and
at 8000 in the second.  The mixer is only called when the tone has to begin or to end.  A beeper
whose mixer cannot be opened stays silent and calls it no more.

Samples are reckoned in 64 signed bits.
-/

namespace Chip8

/-- Whether the sound mixer can be opened. -/
inductive Mixer where
  | working
  /-- Opening fails for a reason. -/
  | failing (reason : String)
  deriving DecidableEq, Repr, Inhabited

/-- A tone and whether it sounds. -/
structure Beeper where
  /-- The samples of the tone; without a mixer there are none. -/
  sound : Option (List Int)
  playing : Bool
  deriving DecidableEq, Repr

namespace Beeper

/-- The pitch of the tone in Hertz, unless another is asked for. -/
def defaultTone : Int := 440

/-- The number of samples in a second, unless another is asked for. -/
def defaultRate : Int := 44100

/-- How far the wave is from the middle. -/
def amplitude : Int := 8000

/-- A number as 64 signed bits hold it. -/
def signed64 (n : Int) : Int :=
  if n.natAbs < 0x4000000000000000 then n else n.bmod 0x10000000000000000

theorem signed64_eq_bmod (n : Int) : signed64 n = n.bmod 0x10000000000000000 := by
  unfold signed64
  split
  · rw [Int.bmod_def]
    omega
  · rfl

/-- The half period that a sample lies in, counted from the first. -/
def halfPeriod (tone rate : Int) (t : Nat) : Int :=
  signed64 (signed64 (t * tone) * 2) / rate

/-- The value of a sample: low in even half periods and high in odd ones. -/
def sample (tone rate : Int) (t : Nat) : Int :=
  if halfPeriod tone rate t % 2 = 0 then -amplitude else amplitude

/-- A tenth of a second of a square wave. -/
def wave (tone rate : Int) : List Int :=
  (List.range (rate / 10).toNat).map (sample tone rate)

/-- Puts a sample in front of a wave that is given by its runs. -/
def extendRuns (value : Int) : List (Int × Nat) → List (Int × Nat)
  | [] => [(value, 1)]
  | (first, count) :: rest =>
    if value = first then (first, count + 1) :: rest else (value, 1) :: (first, count) :: rest

/-- A wave as its maximal runs of equal samples, with their lengths. -/
def runs (samples : List Int) : List (Int × Nat) :=
  samples.foldr extendRuns []

/-- Opens the mixer and, if it opens, prepares a tone. -/
def create (mixer : Mixer) (tone rate : Int) : Effectful Beeper := do
  Traced.report (.mixer (.init rate (-16) 1 256))
  match mixer with
  | .working => return ⟨some (wave tone rate), false⟩
  | .failing reason =>
    Traced.report (.log (.audioDisabled reason))
    return ⟨none, false⟩

/-- The beeper with the usual tone. -/
def standard (mixer : Mixer) : Effectful Beeper :=
  create mixer defaultTone defaultRate

/-- Sounds the tone if it should be active, and silences it if not. -/
def update (beeper : Beeper) (active : Bool) : Effectful Beeper :=
  if beeper.sound.isNone || active == beeper.playing then return beeper
  else do
    Traced.report (.mixer (if active then .play (-1) else .stop))
    return { beeper with playing := active }

end Beeper
end Chip8
