import Chip8.Window
import Chip8.Proofs.Device.Messages

/-!
# Sessions with a window

A window is worked by three kinds of actions: events come in batches, frames pass, and its picture
is drawn.  An `Action` is one of them, `Window.perform` is what comes of it, and `Window.after` is
the window after a list of actions.  `Window.effectsDuring` is all that reaches the outside
meanwhile.

What the pieces of an action do is said once.  An event closes, pauses or resumes, starts the
program over, or at most reaches the device as a key (`Window.Handled`).  A frame lets the device
tick, writes the caption if the tick halted the device, and switches the beeper
(`Window.value_update`).  Drawing only reads.

Where the order of events within a batch matters, actions are taken apart into steps of one event
each (`Window.after_eq_afterSteps`).
-/

namespace Chip8

namespace Beeper

/-- A beeper with a tone sounds as it is told, and one without never changes. -/
theorem value_update (beeper : Beeper) (active : Bool) :
    (beeper.update active).value =
      { beeper with playing := if beeper.sound.isSome then active else beeper.playing } := by
  obtain ⟨sound, playing⟩ := beeper
  cases sound with
  | none => rfl
  | some samples => cases active <;> cases playing <;> rfl

end Beeper

/-- A key changes neither whether the device runs nor its fault nor its timers. -/
theorem Device.switch_setKey (device : Device) (key : Key) (pressed : Bool) :
    (device.setKey key pressed).value.running = device.running ∧
      (device.setKey key pressed).value.fault = device.fault ∧
      ∀ timer : Timer, timer.value (device.setKey key pressed).value.machine.cpu =
        timer.value device.machine.cpu := by
  rw [value_setKey]
  split <;> exact ⟨rfl, rfl, fun timer => by cases timer <;> rfl⟩

namespace Window

/-- Something that is done with a window. -/
inductive Action where
  | events (batch : List HostEvent)
  /-- A frame with the seconds that it took. -/
  | update (delta : Float)
  | render

/-- The window after an action. -/
def perform (window : Window) : Action → Window
  | .events batch => (window.post batch).handleQueue.value
  | .update delta => (window.update delta).value
  | .render => window

/-- The window after some actions. -/
def after (window : Window) (actions : List Action) : Window :=
  actions.foldl perform window

/-- What an action does to the outside. -/
def effects (window : Window) : Action → Array Effect
  | .events batch => (window.post batch).handleQueue.trace
  | .update delta => (window.update delta).trace
  | .render => #[]

/-- What some actions do to the outside. -/
def effectsDuring (window : Window) : List Action → Array Effect
  | [] => #[]
  | action :: rest => window.effects action ++ (window.perform action).effectsDuring rest

section

variable (window : Window) (action : Action) (actions later : List Action)

@[simp] theorem after_nil : window.after [] = window := rfl

@[simp] theorem after_cons :
    window.after (action :: actions) = (window.perform action).after actions := rfl

@[simp] theorem after_append :
    window.after (actions ++ later) = (window.after actions).after later :=
  List.foldl_append

theorem effectsDuring_append :
    window.effectsDuring (actions ++ later) =
      window.effectsDuring actions ++ (window.after actions).effectsDuring later := by
  induction actions generalizing window with
  | nil => exact Array.empty_append.symm
  | cons action rest ih =>
    rw [List.cons_append, effectsDuring, effectsDuring, ih, after_cons, Array.append_assoc]

end

/-! ## Opening -/

theorem value_opened (device : Device) (rom : Rom) (name : String) (scale : Nat) (size : Nat × Nat)
    (color : Color) (mixer : Mixer) :
    (opened device rom name scale size color mixer).value =
      { device, rom, name, scale, size, color
        beeper := (Beeper.standard mixer).value
        running := true
        paused := false
        caption := captionFor name false none
        queue := [] } := rfl

/-! ## Events -/

/-- The event that pauses or resumes. -/
def pauseEvent : HostEvent := .keyDown .pause

/-- The event that starts the program over. -/
def restartEvent : HostEvent := .keyDown .backspace

/-- A program that starts over has a device that runs and has no fault. -/
theorem value_restart (window : Window) :
    window.restart.value =
      { window with
        device := { (window.device.load window.rom).value with running := true }
        caption := captionFor window.name window.paused none } := rfl

/-- What an event can make of a window. -/
inductive Handled (window : Window) : HostEvent → Window → Prop where
  | toggled : Handled window pauseEvent window.togglePause
  | restarted : Handled window restartEvent window.restart.value
  | closed {event : HostEvent} (hpause : event ≠ pauseEvent) (hrestart : event ≠ restartEvent) :
      Handled window event { window with running := false }
  | passed {event : HostEvent} (hpause : event ≠ pauseEvent) (hrestart : event ≠ restartEvent)
      (key : Key) (pressed : Bool) :
      Handled window event { window with device := (window.device.setKey key pressed).value }
  | ignored {event : HostEvent} (hpause : event ≠ pauseEvent) (hrestart : event ≠ restartEvent) :
      Handled window event window

theorem handled_passKey (window : Window) {event : HostEvent} (hpause : event ≠ pauseEvent)
    (hrestart : event ≠ restartEvent) (key : HostKey) (pressed : Bool) :
    Handled window event (window.passKey key pressed).value := by
  unfold passKey
  cases key.keypadKey? with
  | none => exact .ignored hpause hrestart
  | some digit => exact .passed hpause hrestart digit pressed

theorem handled_handle (window : Window) (event : HostEvent) :
    Handled window event (window.handle event).value := by
  cases event with
  | quit => exact .closed (by decide) (by decide)
  | keyUp key =>
    have hpause : HostEvent.keyUp key ≠ pauseEvent := nofun
    have hrestart : HostEvent.keyUp key ≠ restartEvent := nofun
    exact handled_passKey window hpause hrestart key false
  | keyDown key =>
    by_cases hescape : key = .escape
    · subst hescape
      exact .closed (by decide) (by decide)
    by_cases hpause : key = .pause
    · subst hpause
      exact .toggled
    by_cases hrestart : key = .backspace
    · subst hrestart
      exact .restarted
    have hpass : window.handle (.keyDown key) = window.passKey key true := by
      simp only [handle, if_neg hescape, if_neg hpause, if_neg hrestart]
    rw [hpass]
    refine handled_passKey window (fun h => hpause ?_) (fun h => hrestart ?_) key true
    · exact HostEvent.keyDown.inj h
    · exact HostEvent.keyDown.inj h

theorem value_handleEvents (window : Window) (events : List HostEvent) :
    (window.handleEvents events).value =
      events.foldl (fun window event => (window.handle event).value) window := by
  induction events generalizing window with
  | nil => rfl
  | cons event rest ih => exact ih _

/-- What every event keeps, a batch of events keeps.  The events that waited before it do so no
more. -/
theorem perform_events_induction {motive : Window → Prop}
    (hhandled : ∀ window event later, motive window → Handled window event later → motive later)
    {window : Window} (h : motive { window with queue := [] }) (batch : List HostEvent) :
    motive (window.perform (.events batch)) := by
  have hfold (events : List HostEvent) {window : Window} (h : motive window) :
      motive (window.handleEvents events).value := by
    induction events generalizing window with
    | nil => exact h
    | cons event rest ih => exact ih (hhandled _ _ _ h (handled_handle window event))
  exact hfold _ h

/-! ## Frames -/

/-- The device after a frame of the window, which lets it tick unless it is paused. -/
def deviceAfter (window : Window) (delta : Float) : Device :=
  if window.paused then window.device else (window.device.tick delta).device

theorem value_receive_unknown (window : Window) (words : List Word) :
    ((words.map Message.unknownOpcode).foldlM receive window).value = window := by
  induction words with
  | nil => rfl
  | cons word rest ih => exact ih

/-- Of the messages of a frame the fault alone is taken note of, in the caption. -/
theorem value_receive_frame (window : Window) (device : Device) (delta : Float) :
    ((device.tick delta).messages.toList.foldlM receive window).value =
      if device.running && !(device.tick delta).device.running then
        window.writeCaption (device.tick delta).device.fault
      else window := by
  cases hrunning : device.running with
  | false =>
    rw [Device.tick_of_not_running hrunning]
    rfl
  | true =>
    have hreport := Device.frameReport_of_running hrunning delta
    rw [hreport.messages, List.foldlM_append]
    simp only [Traced.value_bind, value_receive_unknown, Device.closingMessage, Bool.true_and]
    cases hstill : (device.tick delta).device.running with
    | true => cases (device.tick delta).device.awaitingKey <;> rfl
    | false =>
      obtain ⟨fault, hlast⟩ := hreport.halted.2 ⟨hrunning, hstill⟩
      rw [hreport.fault fault hlast]
      rfl

/-- A frame lets the device tick, writes the caption if the tick halted the device, and switches the
beeper. -/
theorem value_update (window : Window) (delta : Float) :
    (window.update delta).value =
      { window with
        device := window.deviceAfter delta
        caption :=
          if window.device.running && !(window.deviceAfter delta).running then
            captionFor window.name window.paused (window.deviceAfter delta).fault
          else window.caption
        beeper :=
          (window.beeper.update
            (!window.paused && (window.deviceAfter delta).soundActive)).value } := by
  unfold update deviceAfter
  cases hpaused : window.paused with
  | true =>
    simp only [if_true, Traced.value_bind, Traced.value_pure, Bool.and_not_self, Bool.not_true,
      Bool.false_and, Bool.false_eq_true, if_false]
  | false =>
    simp only [Bool.false_eq_true, if_false, Traced.value_bind, Traced.value_pure, Traced.logged,
      Traced.value_mapTrace, value_receive_frame, Bool.not_false, Bool.true_and]
    split <;> simp only [writeCaption]

/-! ## Actions in steps -/

/-- The least that is done with a window: one event at a time. -/
inductive Step where
  | event (event : HostEvent)
  | update (delta : Float)
  | render

/-- The steps of an action, of which a batch has one for each event. -/
def Action.steps : Action → List Step
  | .events batch => batch.map .event
  | .update delta => [.update delta]
  | .render => [.render]

/-- The window after a step. -/
def take (window : Window) : Step → Window
  | .event event => (window.handle event).value
  | .update delta => (window.update delta).value
  | .render => window

/-- The window after some steps. -/
def afterSteps (window : Window) (steps : List Step) : Window :=
  steps.foldl take window

@[simp] theorem afterSteps_nil (window : Window) : window.afterSteps [] = window := rfl

@[simp] theorem afterSteps_cons (window : Window) (step : Step) (steps : List Step) :
    window.afterSteps (step :: steps) = (window.take step).afterSteps steps := rfl

@[simp] theorem afterSteps_append (window : Window) (steps later : List Step) :
    window.afterSteps (steps ++ later) = (window.afterSteps steps).afterSteps later :=
  List.foldl_append

/-- No action leaves an event waiting. -/
theorem queue_perform {window : Window} (h : window.queue = []) (action : Action) :
    (window.perform action).queue = [] := by
  cases action with
  | events batch =>
    refine perform_events_induction (motive := fun window => window.queue = []) ?_ rfl batch
    intro window event later hqueue hhandled
    cases hhandled <;> exact hqueue
  | update delta =>
    rw [perform, value_update]
    exact h
  | render => exact h

/-- Actions come down to their steps, unless events wait from before. -/
theorem after_eq_afterSteps {window : Window} (h : window.queue = []) (actions : List Action) :
    window.after actions = window.afterSteps (actions.flatMap Action.steps) := by
  induction actions generalizing window with
  | nil => rfl
  | cons action rest ih =>
    have hfirst : window.perform action = window.afterSteps action.steps := by
      cases action with
      | events batch =>
        have hbatch : window.perform (.events batch) =
            batch.foldl (fun window event => (window.handle event).value) window := by
          rw [perform, handleQueue, value_handleEvents, post, h, List.nil_append, ← h]
        rw [hbatch, Action.steps, afterSteps, List.foldl_map]
        rfl
      | update delta => rfl
      | render => rfl
    rw [after_cons, ih (queue_perform h action), List.flatMap_cons, afterSteps_append, hfirst]

end Window
end Chip8
