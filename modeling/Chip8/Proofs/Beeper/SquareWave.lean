import Chip8.Proofs.Beeper.Runs
import Mathlib.Algebra.Order.Floor.Div
import Mathlib.Data.List.Range
import Mathlib.Tactic.Positivity
import Mathlib.Tactic.Ring
import Mathlib.Tactic.Lift

/-!
# The square wave

The tone is a tenth of a second of a wave that stands at -8000 in the first half of a period and at
8000 in the second.  A half period begins with the first sample at or behind its place in time
(`Beeper.halfStart`), so its length is that of half a period, rounded down or up
(`Beeper.isHalfPeriod_sub`).  The samples of a half period are all equal, and those of the next are
not: the half periods are the maximal runs of the wave (`Beeper.runs_samples`), and only the last of
them can be cut off.  If a tenth of a second has whole periods, it is not, and the wave can be
looped (`Beeper.whole_wave`).

The samples are reckoned in 64 signed bits, which makes no difference to the pitches and rates here
(`Beeper.sample_eq_level`).
-/

namespace Chip8
namespace Beeper

/-! ## Half periods -/

/-- The first sample of a half period, where there are `halves` half periods in `rate` samples. -/
def halfStart (halves rate j : Nat) : Nat :=
  (j * rate) ⌈/⌉ halves

section

variable {halves : Nat} (hhalves : 0 < halves)
include hhalves

theorem halfStart_le_iff (rate j t : Nat) : halfStart halves rate j ≤ t ↔ j * rate ≤ halves * t :=
  ceilDiv_le_iff_le_mul hhalves

theorem lt_halfStart_iff (rate j t : Nat) :
    t < halfStart halves rate j ↔ halves * t < j * rate := by
  rw [← Nat.not_le, halfStart_le_iff hhalves, Nat.not_le]

/-- A half period has at least the samples of its length rounded down. -/
theorem halfStart_add_le (rate j : Nat) :
    halfStart halves rate j + rate / halves ≤ halfStart halves rate (j + 1) := by
  have hnext : (j + 1) * rate ≤ halves * halfStart halves rate (j + 1) :=
    (halfStart_le_iff hhalves rate _ _).1 le_rfl
  have hlength : halves * (rate / halves) ≤ rate := Nat.mul_div_le rate halves
  have hroom : rate / halves ≤ halfStart halves rate (j + 1) := by
    refine Nat.le_of_mul_le_mul_left ?_ hhalves
    calc halves * (rate / halves) ≤ rate := hlength
      _ ≤ (j + 1) * rate := Nat.le_mul_of_pos_left rate (Nat.succ_pos j)
      _ ≤ halves * halfStart halves rate (j + 1) := hnext
  have hfirst : halfStart halves rate j ≤ halfStart halves rate (j + 1) - rate / halves := by
    rw [halfStart_le_iff hhalves, Nat.mul_sub]
    have hsum : (j + 1) * rate = j * rate + rate := Nat.succ_mul j rate
    omega
  omega

/-- A half period has at most the samples of its length rounded up. -/
theorem halfStart_succ_le (rate j : Nat) :
    halfStart halves rate (j + 1) ≤ halfStart halves rate j + rate ⌈/⌉ halves := by
  have hfirst : j * rate ≤ halves * halfStart halves rate j :=
    (halfStart_le_iff hhalves rate _ _).1 le_rfl
  have hlength : rate ≤ halves * (rate ⌈/⌉ halves) := (ceilDiv_le_iff_le_mul hhalves).1 le_rfl
  rw [halfStart_le_iff hhalves, Nat.succ_mul, Nat.mul_add]
  exact Nat.add_le_add hfirst hlength

theorem halfStart_mono (rate : Nat) {j k : Nat} (h : j ≤ k) :
    halfStart halves rate j ≤ halfStart halves rate k := by
  rw [halfStart_le_iff hhalves]
  exact (Nat.mul_le_mul_right rate h).trans ((halfStart_le_iff hhalves rate k _).1 le_rfl)

theorem ceilDiv_le_succ (rate : Nat) : rate ⌈/⌉ halves ≤ rate / halves + 1 := by
  rw [ceilDiv_le_iff_le_mul hhalves]
  exact (Nat.lt_mul_div_succ rate hhalves).le

end

/-! ## Samples -/

/-- The value of the samples in a half period. -/
def level (j : Nat) : Int :=
  if j % 2 = 0 then -amplitude else amplitude

theorem level_ne_succ (j : Nat) : level j ≠ level (j + 1) := by
  unfold level amplitude
  split <;> split <;> omega

/-- What 64 signed bits hold is left as it is. -/
theorem signed64_of_lt {n : Int} (hlow : 0 ≤ n) (hhigh : n < 0x8000000000000000) :
    signed64 n = n := by
  rw [signed64_eq_bmod, Int.bmod_def]
  omega

/-- The samples of a half period have one value, as long as 64 signed bits hold the numbers. -/
theorem sample_eq_level {tone rate t j : Nat} (htone : 0 < tone)
    (hword : 2 * tone * t < 0x8000000000000000) (hfirst : halfStart (2 * tone) rate j ≤ t)
    (hlast : t < halfStart (2 * tone) rate (j + 1)) : sample tone rate t = level j := by
  have hhalves : 0 < 2 * tone := by omega
  rw [halfStart_le_iff hhalves] at hfirst
  rw [lt_halfStart_iff hhalves] at hlast
  -- The product is reckoned in another order than the bounds have it.
  have hproduct : 2 * tone * t = t * tone * 2 := by
    rw [Nat.mul_comm (2 * tone) t, Nat.mul_comm 2 tone, Nat.mul_assoc]
  rw [hproduct] at hword hfirst hlast
  have hquotient : t * tone * 2 / rate = j := Nat.div_eq_of_lt_le hfirst hlast
  have hhalf : halfPeriod tone rate t = j := by
    have hone : signed64 ((t : Int) * tone) = (t * tone : Nat) :=
      signed64_of_lt (by positivity) (by omega)
    have htwo : signed64 (((t * tone : Nat) : Int) * 2) = (t * tone * 2 : Nat) :=
      signed64_of_lt (by positivity) (by omega)
    rw [halfPeriod, hone, htwo, ← hquotient]
    rfl
  have hparity : (j : Int) % 2 = 0 ↔ j % 2 = 0 := by omega
  simp only [sample, level, hhalf, hparity]

/-! ## Runs -/

/-- The part of a half period that is within the first `count` samples, as a run. -/
def runOf (halves rate count j : Nat) : Int × Nat :=
  (level j, min (halfStart halves rate (j + 1)) count - halfStart halves rate j)

section

variable {tone count : Nat} (htone : 0 < tone) (hcount : 2 * tone * count < 0x8000000000000000)
include htone hcount

theorem map_sample_runOf (rate j : Nat) :
    (List.range (runOf (2 * tone) rate count j).2).map
        (sample tone rate ∘ (min (halfStart (2 * tone) rate j) count + ·)) =
      List.replicate (runOf (2 * tone) rate count j).2 (level j) := by
  refine List.eq_replicate_iff.2 ⟨by rw [List.length_map, List.length_range], ?_⟩
  intro value hvalue
  obtain ⟨i, hi, rfl⟩ := List.mem_map.1 hvalue
  have hlength : i < min (halfStart (2 * tone) rate (j + 1)) count - halfStart (2 * tone) rate j :=
    List.mem_range.1 hi
  obtain ⟨hfirst, hlast, hinside⟩ :
      halfStart (2 * tone) rate j ≤ min (halfStart (2 * tone) rate j) count + i ∧
        min (halfStart (2 * tone) rate j) count + i < halfStart (2 * tone) rate (j + 1) ∧
        min (halfStart (2 * tone) rate j) count + i < count := by omega
  have hword : 2 * tone * (min (halfStart (2 * tone) rate j) count + i) < 0x8000000000000000 :=
    (Nat.mul_le_mul_left _ hinside.le).trans_lt hcount
  exact sample_eq_level htone hword hfirst hlast

/-- The half periods put together are the samples, up to where either of them ends. -/
theorem samplesOf_runOf (rate halfCount : Nat) :
    samplesOf ((List.range halfCount).map (runOf (2 * tone) rate count)) =
      (List.range (min (halfStart (2 * tone) rate halfCount) count)).map (sample tone rate) := by
  have hhalves : 0 < 2 * tone := by omega
  induction halfCount with
  | zero =>
    have hzero : halfStart (2 * tone) rate 0 ≤ 0 := (halfStart_le_iff hhalves rate 0 0).2 (by omega)
    rw [Nat.le_zero.1 hzero, Nat.zero_min]
    rfl
  | succ j ih =>
    have hmono : halfStart (2 * tone) rate j ≤ halfStart (2 * tone) rate (j + 1) :=
      halfStart_mono hhalves rate (Nat.le_succ j)
    -- A half period that begins behind the samples has no part of them, so this holds for it too.
    have hsplit : min (halfStart (2 * tone) rate (j + 1)) count =
        min (halfStart (2 * tone) rate j) count + (runOf (2 * tone) rate count j).2 := by
      simp only [runOf]
      omega
    rw [List.range_succ, List.map_append, samplesOf, List.flatMap_append, hsplit, List.range_add,
      List.map_append, List.map_map, map_sample_runOf htone hcount rate j, ← ih]
    exact congrArg (_ ++ ·) (List.append_nil _)

/-- Each half period that begins within the samples is a maximal run of them. -/
theorem runs_samples {rate last : Nat} (hfast : 2 * tone ≤ rate)
    (hbegun : halfStart (2 * tone) rate last < count)
    (hover : count ≤ halfStart (2 * tone) rate (last + 1)) :
    runs ((List.range count).map (sample tone rate)) =
      (List.range (last + 1)).map (runOf (2 * tone) rate count) := by
  have hhalves : 0 < 2 * tone := by omega
  have htogether := samplesOf_runOf htone hcount rate (last + 1)
  rw [Nat.min_eq_right hover] at htogether
  refine AreRuns.runs_eq ⟨htogether, ?_, ?_⟩
  · intro run hrun
    obtain ⟨j, hj, rfl⟩ := List.mem_map.1 hrun
    have hbefore : halfStart (2 * tone) rate j ≤ halfStart (2 * tone) rate last :=
      halfStart_mono hhalves rate (Nat.le_of_lt_succ (List.mem_range.1 hj))
    have hnext := halfStart_add_le hhalves rate j
    have hsome : 0 < rate / (2 * tone) := Nat.div_pos hfast hhalves
    change 0 < min (halfStart (2 * tone) rate (j + 1)) count - halfStart (2 * tone) rate j
    omega
  · rw [List.isChain_map, List.isChain_range]
    intro j hj
    exact level_ne_succ j

end

/-! ## The tone -/

/-- A number of samples is the length of a half period, rounded down or up. -/
def IsHalfPeriod (tone rate : Int) (length : Nat) : Prop :=
  (length : Int) = rate / (2 * tone) ∨ (length : Int) = (rate + 2 * tone - 1) / (2 * tone)

theorem natCast_ceilDiv {tone : Nat} (htone : 0 < tone) (rate : Nat) :
    ((rate ⌈/⌉ (2 * tone) : Nat) : Int) = (rate + 2 * tone - 1) / (2 * tone) := by
  rw [Nat.ceilDiv_eq_add_pred_div]
  have hsum : ((rate + 2 * tone - 1 : Nat) : Int) = rate + 2 * tone - 1 := by omega
  rw [Int.natCast_ediv, hsum]
  rfl

theorem isHalfPeriod_sub {tone : Nat} (htone : 0 < tone) (rate j : Nat) :
    IsHalfPeriod tone rate (halfStart (2 * tone) rate (j + 1) - halfStart (2 * tone) rate j) := by
  have hhalves : 0 < 2 * tone := by omega
  have hlow := halfStart_add_le hhalves rate j
  have hhigh := halfStart_succ_le hhalves rate j
  have hround := ceilDiv_le_succ hhalves rate
  rw [IsHalfPeriod, ← natCast_ceilDiv htone]
  have hdown : ((rate / (2 * tone) : Nat) : Int) = (rate : Int) / (2 * tone) := rfl
  rw [← hdown]
  omega

theorem exists_last_halfStart {halves rate count : Nat} (hhalves : 0 < halves) (hrate : 0 < rate)
    (hcount : 0 < count) :
    ∃ last, halfStart halves rate last < count ∧ count ≤ halfStart halves rate (last + 1) := by
  refine ⟨halves * (count - 1) / rate, ?_, ?_⟩
  · have hbegun : halfStart halves rate (halves * (count - 1) / rate) ≤ count - 1 :=
      (halfStart_le_iff hhalves rate _ _).2 (Nat.div_mul_le_self _ _)
    omega
  · have hover : count - 1 < halfStart halves rate (halves * (count - 1) / rate + 1) := by
      rw [lt_halfStart_iff hhalves, Nat.mul_comm _ rate]
      exact Nat.lt_mul_div_succ _ hrate
    omega

/-- Where the samples are a whole number of periods, they end with a half period. -/
theorem halfStart_eq_count {periods count : Nat} (hperiods : 0 < periods) :
    halfStart (2 * (10 * periods)) (10 * count) (2 * periods) = count := by
  have hhalves : 0 < 2 * (10 * periods) := by omega
  have hwhole : 2 * periods * (10 * count) = 2 * (10 * periods) * count := by ring
  apply Nat.le_antisymm
  · rw [halfStart_le_iff hhalves, hwhole]
  · refine Nat.le_of_mul_le_mul_left ?_ hhalves
    rw [← hwhole]
    exact (halfStart_le_iff hhalves _ _ _).1 le_rfl

theorem wave_eq (tone rate : Nat) :
    wave tone rate = (List.range (rate / 10)).map (sample tone rate) := rfl

theorem sample_eq_or (tone rate : Int) (t : Nat) :
    sample tone rate t = -8000 ∨ sample tone rate t = 8000 := by
  unfold sample
  split
  · exact Or.inl rfl
  · exact Or.inr rfl

theorem sample_zero (tone rate : Int) : sample tone rate 0 = -8000 := by
  simp [sample, halfPeriod, signed64, amplitude]

/-- All half periods of the wave but the last are whole, and the last is at most that. -/
theorem exists_runs_wave {tone rate : Nat} (htone : 0 < tone) (hrate : 10 ≤ rate)
    (hfast : 2 * tone ≤ rate) (hword : 2 * tone * (rate / 10) < 0x8000000000000000) :
    ∃ early last, runs (wave tone rate) = early ++ [last] ∧
      (∀ run ∈ early, IsHalfPeriod tone rate run.2) ∧
      (last.2 : Int) ≤ (rate + 2 * tone - 1) / (2 * tone) := by
  have hhalves : 0 < 2 * tone := by omega
  obtain ⟨last, hbegun, hover⟩ : ∃ last, halfStart (2 * tone) rate last < rate / 10 ∧
      rate / 10 ≤ halfStart (2 * tone) rate (last + 1) :=
    exists_last_halfStart hhalves (by omega) (by omega)
  rw [wave_eq, runs_samples htone hword hfast hbegun hover, List.range_succ, List.map_append]
  refine ⟨_, _, rfl, ?_, ?_⟩
  · intro run hrun
    obtain ⟨j, hj, rfl⟩ := List.mem_map.1 hrun
    have hnext : halfStart (2 * tone) rate (j + 1) ≤ halfStart (2 * tone) rate last :=
      halfStart_mono hhalves rate (List.mem_range.1 hj)
    have hwhole : (runOf (2 * tone) rate (rate / 10) j).2 =
        halfStart (2 * tone) rate (j + 1) - halfStart (2 * tone) rate j := by
      simp only [runOf]
      omega
    rw [hwhole]
    exact isHalfPeriod_sub htone rate j
  · have hhigh := halfStart_succ_le hhalves rate last
    rw [← natCast_ceilDiv htone]
    simp only [runOf]
    omega

/-- A wave of whole periods has nothing but whole half periods. -/
theorem runs_wave_of_whole {periods count : Nat} (hperiods : 0 < periods)
    (hfast : 2 * (10 * periods) ≤ 10 * count)
    (hword : 2 * (10 * periods) * count < 0x8000000000000000) :
    runs (wave (10 * periods : Nat) (10 * count : Nat)) =
      (List.range (2 * periods)).map (runOf (2 * (10 * periods)) (10 * count) count) := by
  have hhalves : 0 < 2 * (10 * periods) := by omega
  have hend : halfStart (2 * (10 * periods)) (10 * count) (2 * periods) = count :=
    halfStart_eq_count hperiods
  have hcount : 10 * count / 10 = count := by omega
  have hlast : 2 * periods - 1 + 1 = 2 * periods := by omega
  have hsome : 0 < 10 * count / (2 * (10 * periods)) := Nat.div_pos hfast hhalves
  have hlength := halfStart_add_le hhalves (10 * count) (2 * periods - 1)
  rw [hlast, hend] at hlength
  have hbegun : halfStart (2 * (10 * periods)) (10 * count) (2 * periods - 1) < count := by omega
  have hover : count ≤ halfStart (2 * (10 * periods)) (10 * count) (2 * periods - 1 + 1) := by
    rw [hlast, hend]
  rw [wave_eq, hcount, runs_samples (by omega) hword hfast hbegun hover, hlast]

/-- In a wave of whole periods all half periods are whole, there is one above the middle for each
one below, and its loop has no other runs. -/
theorem whole_wave {periods count : Nat} (hperiods : 0 < periods)
    (hfast : 2 * (10 * periods) ≤ 10 * count)
    (hword : 2 * (10 * periods) * count < 0x8000000000000000) :
    let samples := wave (10 * periods : Nat) (10 * count : Nat)
    (∀ run ∈ runs samples, IsHalfPeriod (10 * periods : Nat) (10 * count : Nat) run.2) ∧
      Even (runs samples).length ∧
      ∀ times : Nat, AreRuns (List.replicate times samples).flatten
        (List.replicate times (runs samples)).flatten := by
  intro samples
  have hhalves : 0 < 2 * (10 * periods) := by omega
  have hruns : runs samples = _ := runs_wave_of_whole hperiods hfast hword
  refine ⟨?_, ?_, fun times => ?_⟩
  · rw [hruns]
    intro run hrun
    obtain ⟨j, hj, rfl⟩ := List.mem_map.1 hrun
    have hnext : halfStart (2 * (10 * periods)) (10 * count) (j + 1) ≤ count := by
      have hend := halfStart_mono hhalves (10 * count) (List.mem_range.1 hj)
      rw [halfStart_eq_count hperiods] at hend
      exact hend
    rw [runOf, Nat.min_eq_left hnext]
    exact isHalfPeriod_sub (by omega) _ j
  · rw [hruns, List.length_map, List.length_range]
    exact even_two_mul periods
  · -- The wave ends above the middle and begins below it.
    have hseam : ∀ last ∈ (runs samples).getLast?, ∀ first ∈ (runs samples).head?,
        last.1 ≠ first.1 := by
      have hsome : 2 * periods ≠ 0 := by omega
      have hodd : (2 * periods - 1) % 2 ≠ 0 := by omega
      rw [hruns, List.getLast?_map, List.head?_map, List.getLast?_range, List.head?_range,
        if_neg hsome, if_neg hsome]
      rintro last ⟨⟩ first ⟨⟩
      simp only [runOf, level, if_neg hodd, amplitude]
      decide
    rw [← runs_flatten_replicate times hseam]
    exact areRuns_runs _

/-- The tone of a working mixer is the wave.  It has a tenth of the samples of a second and begins
below the middle.  Its maximal runs of equal samples, but for the last, are as long as half a
period, rounded down or up, and the last is no longer.  Where a tenth of a second has whole periods,
the last is as long as the others, there is an even number of them, and the wave played again and
again has just these runs. -/
theorem wave_alternates (tone rate : Int) (htone : 1 ≤ tone) (hrate : 10 ≤ rate)
    (hpitch : 2 * tone ≤ rate) (hword : 2 * tone * (rate / 10) < 0x8000000000000000) :
    (create .working tone rate).value.sound = some (wave tone rate) ∧
    let samples := wave tone rate
    (samples.length : Int) = rate / 10 ∧
    (∀ sample ∈ samples, sample = -8000 ∨ sample = 8000) ∧ samples.head? = some (-8000) ∧
    AreRuns samples (runs samples) ∧
    (∃ early last, runs samples = early ++ [last] ∧
      (∀ run ∈ early, IsHalfPeriod tone rate run.2) ∧
      (last.2 : Int) ≤ (rate + 2 * tone - 1) / (2 * tone)) ∧
    (10 ∣ rate → 10 ∣ tone →
      (∀ run ∈ runs samples, IsHalfPeriod tone rate run.2) ∧
      Even (runs samples).length ∧
      ∀ count : Nat, AreRuns (List.replicate count samples).flatten
        (List.replicate count (runs samples)).flatten) := by
  refine ⟨rfl, ?_⟩
  intro samples
  refine ⟨?_, ?_, ?_, areRuns_runs samples, ?_, ?_⟩
  · simp only [samples, wave, List.length_map, List.length_range]
    omega
  · intro value hvalue
    obtain ⟨t, -, rfl⟩ := List.mem_map.1 hvalue
    exact sample_eq_or tone rate t
  · have hcount : (rate / 10).toNat ≠ 0 := by omega
    simp only [samples, wave, List.head?_map, List.head?_range, if_neg hcount, Option.map_some,
      sample_zero]
  · lift tone to Nat using by omega
    lift rate to Nat using by omega
    exact exists_runs_wave (by omega) (by omega) (by omega) (by exact_mod_cast hword)
  · intro hdvdrate hdvdtone
    obtain ⟨count, rfl⟩ := hdvdrate
    obtain ⟨periods, rfl⟩ := hdvdtone
    lift periods to Nat using by omega
    lift count to Nat using by omega
    have hcount : (10 * (count : Int)) / 10 = count := by omega
    rw [hcount] at hword
    exact whole_wave (by omega) (by omega) (by exact_mod_cast hword)

/-- The usual tone is made of half periods of 50 and 51 samples. -/
theorem wave_alternates_usual :
    let samples := wave 440 44100
    (Beeper.standard .working).value.sound = some samples ∧ samples.length = 4410 ∧
      (∀ run ∈ runs samples, run.2 = 50 ∨ run.2 = 51) ∧ Even (runs samples).length := by
  intro samples
  obtain ⟨hsound, hlength, -, -, -, -, hwhole⟩ :=
    wave_alternates 440 44100 (by decide) (by decide) (by decide) (by decide)
  obtain ⟨hruns, heven, -⟩ := hwhole (by decide) (by decide)
  have hcount : (wave 440 44100).length = 4410 := Int.natCast_inj.1 hlength
  refine ⟨hsound, hcount, fun run hrun => ?_, heven⟩
  have hrun := hruns run hrun
  unfold IsHalfPeriod at hrun
  omega

example : runs (wave 7 95) = [(-8000, 7), (8000, 2)] := by decide

end Beeper
end Chip8
