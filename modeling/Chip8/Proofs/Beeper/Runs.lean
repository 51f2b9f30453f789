import Chip8.Beeper
import Mathlib.Data.List.Chain

/-!
# Runs of equal samples

`Beeper.AreRuns` says what the maximal runs of a wave are: put together they make the wave, none is
empty, and neighbours have different values.  There is one way to cut a wave into such runs
(`Beeper.AreRuns.runs_eq`), and `Beeper.runs` finds it (`Beeper.areRuns_runs`).  So the runs of
waves that are played one behind the other are the runs of each, as long as a wave does not begin
with the value that the one before ends with (`Beeper.runs_flatten_replicate`).
-/

namespace Chip8
namespace Beeper

variable {samples : List Int} {parts : List (Int × Nat)}

/-- The samples that runs stand for. -/
def samplesOf (parts : List (Int × Nat)) : List Int :=
  parts.flatMap fun (value, count) => List.replicate count value

/-- A wave is cut into maximal runs of equal samples. -/
structure AreRuns (samples : List Int) (parts : List (Int × Nat)) : Prop where
  together : samplesOf parts = samples
  nonempty : ∀ run ∈ parts, 0 < run.2
  apart : parts.IsChain fun first second => first.1 ≠ second.1

theorem runs_cons (value : Int) (samples : List Int) :
    runs (value :: samples) = extendRuns value (runs samples) := rfl

/-- A sample in front lengthens the first run or makes a run of its own. -/
theorem AreRuns.extend (h : AreRuns samples parts) (value : Int) :
    AreRuns (value :: samples) (extendRuns value parts) := by
  obtain ⟨rfl, hnonempty, hapart⟩ := h
  cases parts with
  | nil => exact ⟨rfl, by simp [extendRuns], List.isChain_singleton _⟩
  | cons run rest =>
    obtain ⟨first, count⟩ := run
    rw [extendRuns]
    split
    next hsame =>
      subst hsame
      refine ⟨rfl, ?_, List.isChain_cons.2 (List.isChain_cons.1 hapart)⟩
      intro run hrun
      cases hrun with
      | head => exact Nat.succ_pos count
      | tail _ hrun => exact hnonempty run (List.mem_cons_of_mem _ hrun)
    next hnews =>
      refine ⟨rfl, ?_, List.isChain_cons_cons.2 ⟨hnews, hapart⟩⟩
      intro run hrun
      cases hrun with
      | head => exact Nat.one_pos
      | tail _ hrun => exact hnonempty run hrun

theorem areRuns_runs (samples : List Int) : AreRuns samples (runs samples) := by
  induction samples with
  | nil => exact ⟨rfl, by simp [runs], List.isChain_nil⟩
  | cons value rest ih => exact ih.extend value

/-- Samples of one value in front of a wave that does not begin with it are a run. -/
theorem runs_replicate_append {value : Int} {count : Nat} (hcount : 0 < count)
    (hapart : ∀ run ∈ (runs samples).head?, value ≠ run.1) :
    runs (List.replicate count value ++ samples) = (value, count) :: runs samples := by
  induction count with
  | zero => cases hcount
  | succ count ih =>
    rw [List.replicate_succ, List.cons_append, runs_cons]
    cases count with
    | zero =>
      rw [List.replicate_zero, List.nil_append]
      cases hruns : runs samples with
      | nil => rfl
      | cons run rest =>
        rw [hruns] at hapart
        exact if_neg (hapart run rfl)
    | succ count =>
      rw [ih (Nat.succ_pos count)]
      exact if_pos rfl

/-- A wave has no other maximal runs. -/
theorem AreRuns.runs_eq (h : AreRuns samples parts) : runs samples = parts := by
  obtain ⟨rfl, hnonempty, hapart⟩ := h
  induction parts with
  | nil => rfl
  | cons run rest ih =>
    obtain ⟨hfirst, hrest⟩ := List.isChain_cons.1 hapart
    have hruns := ih (fun other hother => hnonempty other (List.mem_cons_of_mem _ hother)) hrest
    rw [← hruns] at hfirst
    have hsplit := runs_replicate_append (hnonempty run List.mem_cons_self) hfirst
    rw [hruns] at hsplit
    exact hsplit

theorem samplesOf_flatten_replicate (count : Nat) (parts : List (Int × Nat)) :
    samplesOf (List.replicate count parts).flatten =
      (List.replicate count (samplesOf parts)).flatten := by
  induction count with
  | zero => rfl
  | succ count ih =>
    rw [List.replicate_succ, List.replicate_succ, List.flatten_cons, List.flatten_cons, ← ih]
    exact List.flatMap_append

/-- A wave that ends otherwise than it begins has the same runs in a loop. -/
theorem runs_flatten_replicate (count : Nat)
    (hseam : ∀ last ∈ (runs samples).getLast?, ∀ first ∈ (runs samples).head?, last.1 ≠ first.1) :
    runs (List.replicate count samples).flatten =
      (List.replicate count (runs samples)).flatten := by
  obtain ⟨htogether, hnonempty, hapart⟩ := areRuns_runs samples
  apply AreRuns.runs_eq
  refine ⟨?_, ?_, ?_⟩
  · rw [samplesOf_flatten_replicate, htogether]
  · intro run hrun
    obtain ⟨parts, hparts, hrun⟩ := List.mem_flatten.1 hrun
    rw [List.eq_of_mem_replicate hparts] at hrun
    exact hnonempty run hrun
  · by_cases hnone : runs samples = []
    · rw [hnone, List.flatten_replicate_nil]
      exact List.isChain_nil
    · rw [List.isChain_flatten fun hmem => hnone (List.eq_of_mem_replicate hmem).symm]
      refine ⟨?_, List.isChain_replicate_of_rel count hseam⟩
      intro parts hparts
      rw [List.eq_of_mem_replicate hparts]
      exact hapart

end Beeper
end Chip8
