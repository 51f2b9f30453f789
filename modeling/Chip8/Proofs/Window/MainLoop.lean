import Chip8.Proofs.Window.Session

/-!
# The main loop

A pass of the main loop is three actions: the events that have come, a frame and the picture
(`Window.Pass.actions`).  The loop makes passes for as long as the window is open when a pass is
due, and switches the beeper off behind the last of them.  `Window.LoopedFor` says so of a number
of passes, and `Window.exists_loopedFor` that there is such a number for every main loop.
-/

namespace Chip8
namespace Window

/-- What a pass of the main loop does with a window, in this order. -/
def Pass.actions (next : Pass) : List Action :=
  [.events next.events, .update next.delta, .render]

/-- The window after some passes. -/
def afterPasses (window : Window) (passes : List Pass) : Window :=
  window.after (passes.flatMap Pass.actions)

/-- What comes of a window whose main loop makes the first `made` of some passes: the window is open
before each of these, and closed behind them if there are any more.  In the end the beeper is told
to be silent. -/
structure LoopedFor (window : Window) (passes : List Pass) (made : Nat) (ran : Effectful Window) :
    Prop where
  made_le : made ≤ passes.length
  opened : ∀ k < made, (window.afterPasses (passes.take k)).running = true
  closed : made < passes.length → (window.afterPasses (passes.take made)).running = false
  value : ran.value =
    { window.afterPasses (passes.take made) with
      beeper := ((window.afterPasses (passes.take made)).beeper.update false).value }
  trace : ran.trace =
    window.effectsDuring ((passes.take made).flatMap Pass.actions) ++
      ((window.afterPasses (passes.take made)).beeper.update false).trace

variable (window : Window) (next : Pass) (rest : List Pass)

theorem value_pass : (window.pass next).value = window.after next.actions := rfl

theorem trace_pass : (window.pass next).trace = window.effectsDuring next.actions := by
  have hpass : (window.pass next).trace =
      window.effects (.events next.events) ++
        (window.perform (.events next.events)).effects (.update next.delta) :=
    Traced.trace_bind _ _
  have hactions : window.effectsDuring next.actions =
      window.effects (.events next.events) ++
        ((window.perform (.events next.events)).effects (.update next.delta) ++ (#[] ++ #[])) :=
    rfl
  rw [hpass, hactions, Array.append_empty, Array.append_empty]

theorem afterPasses_cons :
    window.afterPasses (next :: rest) = (window.pass next).value.afterPasses rest := by
  rw [afterPasses, List.flatMap_cons, after_append, value_pass]
  rfl

theorem effectsDuring_passes_cons :
    window.effectsDuring ((next :: rest).flatMap Pass.actions) =
      (window.pass next).trace ++
        (window.pass next).value.effectsDuring (rest.flatMap Pass.actions) := by
  rw [List.flatMap_cons, effectsDuring_append, trace_pass, value_pass]

/-- A main loop that makes no pass does no more than to switch the beeper off. -/
theorem loopedFor_silence {passes : List Pass} (h : 0 < passes.length → window.running = false) :
    window.LoopedFor passes 0 window.silence :=
  { made_le := Nat.zero_le _
    opened := fun _ hk => absurd hk (Nat.not_lt_zero _)
    closed := h
    value := rfl
    trace := (Array.append_empty).trans Array.empty_append.symm }

/-- A pass that an open window makes comes before those that the loop makes behind it. -/
theorem LoopedFor.cons {window : Window} {next : Pass} {rest : List Pass} {made : Nat}
    {ran : Effectful Window} (hopen : window.running = true)
    (h : (window.pass next).value.LoopedFor rest made ran) :
    window.LoopedFor (next :: rest) (made + 1)
      ⟨ran.value, (window.pass next).trace ++ ran.trace⟩ := by
  refine ⟨Nat.succ_le_succ h.made_le, fun k hk => ?_, fun hmade => ?_, ?_, ?_⟩
  · cases k with
    | zero => exact hopen
    | succ k =>
      rw [List.take_succ_cons, afterPasses_cons]
      exact h.opened k (Nat.lt_of_succ_lt_succ hk)
  · rw [List.take_succ_cons, afterPasses_cons]
    exact h.closed (Nat.lt_of_succ_lt_succ hmade)
  · rw [List.take_succ_cons, afterPasses_cons]
    exact h.value
  · rw [List.take_succ_cons, afterPasses_cons, effectsDuring_passes_cons, h.trace,
      Array.append_assoc]

/-- The main loop makes as many passes as find the window open, one after the other. -/
theorem exists_loopedFor (passes : List Pass) :
    ∃ made, window.LoopedFor passes made (window.run passes) := by
  induction passes generalizing window with
  | nil => exact ⟨0, window.loopedFor_silence fun h => absurd h (Nat.lt_irrefl 0)⟩
  | cons next rest ih =>
    rw [run]
    cases hopen : window.running with
    | false =>
      rw [if_neg Bool.false_ne_true]
      exact ⟨0, window.loopedFor_silence fun _ => hopen⟩
    | true =>
      obtain ⟨made, hrest⟩ := ih (window.pass next).value
      rw [if_pos rfl]
      exact ⟨made + 1, hrest.cons hopen⟩

end Window
end Chip8
