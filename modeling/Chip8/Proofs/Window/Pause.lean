import Chip8.Proofs.Window.Batch

/-!
# Pauses

While a window is paused, its device stands still: a frame switches the beeper off, and nothing else
comes of it.  Behind the pause the caption and the beeper may be others than without it, but what
becomes of the rest of the window does not depend on these (`Window.bare_take`).  So a device does
not tell whether its window was paused for a while (`Window.bare_afterSteps_pause`).
-/

namespace Chip8
namespace Window

variable {window : Window}

/-- The window without its caption and its sound. -/
def bare (window : Window) : Window :=
  { window with
    caption := ""
    beeper := ⟨none, false⟩ }

/-- Whether a step is an event. -/
def Step.isEvent : Step → Bool
  | event _ => true
  | update _ | render => false

/-- What a step makes of the rest of a window depends neither on the caption nor on the beeper. -/
theorem bare_take (window : Window) (step : Step) :
    (window.take step).bare = (window.bare.take step).bare := by
  cases step with
  | event event => simp only [take, value_handle, bare]
  | update delta => simp only [take, value_update, deviceAfter, bare]
  | render => rfl

theorem bare_afterSteps_congr {first second : Window} (h : first.bare = second.bare)
    (steps : List Step) : (first.afterSteps steps).bare = (second.afterSteps steps).bare := by
  induction steps generalizing first second with
  | nil => exact h
  | cons step rest ih =>
    have htaken : (first.take step).bare = (second.take step).bare := by
      rw [bare_take first, h, ← bare_take second]
    exact ih htaken

theorem device_update_of_paused (hpaused : window.paused = true) (delta : Float) :
    (window.update delta).value.device = window.device := by
  rw [value_update, deviceAfter, if_pos hpaused]

theorem bare_take_of_paused (hpaused : window.paused = true) {step : Step}
    (hstill : step.isEvent = false) : (window.take step).bare = window.bare := by
  cases step with
  | event event => cases hstill
  | update delta => simp only [take, value_update, deviceAfter, if_pos hpaused, bare]
  | render => rfl

theorem bare_afterSteps_of_paused (hpaused : window.paused = true) {still : List Step}
    (hstill : ∀ step ∈ still, step.isEvent = false) :
    (window.afterSteps still).bare = window.bare := by
  induction still generalizing window with
  | nil => rfl
  | cons step rest ih =>
    obtain ⟨hfirst, hrest⟩ := List.forall_mem_cons.1 hstill
    have htaken : (window.take step).bare = window.bare := bare_take_of_paused hpaused hfirst
    have hpaused' : (window.take step).paused = true := (congrArg paused htaken).trans hpaused
    exact (ih hpaused' hrest).trans htaken

theorem bare_take_pause (window : Window) :
    (window.take (.event pauseEvent)).bare = { window.bare with paused := !window.paused } := rfl

/-- A pause in which frames pass and the picture is drawn changes nothing of the window but its
caption and its sound. -/
theorem bare_pause (hresumed : window.paused = false) {still : List Step}
    (hstill : ∀ step ∈ still, step.isEvent = false) :
    (((window.take (.event pauseEvent)).afterSteps still).take (.event pauseEvent)).bare =
      window.bare := by
  generalize hheld : (window.take (.event pauseEvent)).afterSteps still = held
  have hpaused : (window.take (.event pauseEvent)).paused = true := by
    change (!window.paused) = true
    rw [hresumed]
    rfl
  have hbare : held.bare = { window.bare with paused := true } := by
    rw [← hheld, bare_afterSteps_of_paused hpaused hstill, bare_take_pause, hresumed]
    rfl
  have hstays : held.paused = true := congrArg paused hbare
  calc (held.take (.event pauseEvent)).bare
    _ = { held.bare with paused := !held.paused } := bare_take_pause held
    _ = { window.bare with paused := false } := by rw [hbare, hstays, Bool.not_true]
    _ = window.bare := by rw [← hresumed]; rfl

/-- A pause in the middle of a run leaves all later windows the same but for their captions and
their sound. -/
theorem bare_afterSteps_pause (window : Window) (early : List Step) {still : List Step}
    (late : List Step) (hresumed : (window.afterSteps early).paused = false)
    (hstill : ∀ step ∈ still, step.isEvent = false) :
    (window.afterSteps
        (early ++ .event pauseEvent :: (still ++ .event pauseEvent :: late))).bare =
      (window.afterSteps (early ++ late)).bare := by
  simp only [afterSteps_append, afterSteps_cons]
  exact bare_afterSteps_congr (bare_pause hresumed hstill) late

end Window
end Chip8
