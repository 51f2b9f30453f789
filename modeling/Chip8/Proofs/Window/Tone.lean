import Chip8.Proofs.Device.Timers
import Chip8.Proofs.Window.Session

/-!
# How long a tone lasts

A frame leaves the beeper playing if the window is not paused and the sound timer of its device is
above zero (`Window.playing_update`).  The timer counts down in every frame of a device that runs.
So of the frames that find the device running no more leave the beeper playing than the timer was
set to, however the window is paused, and the program started over, in between
(`Window.tone_lasts`).

A device that a fault halted keeps its timer where it stands.  If it stands above zero, every frame
from then on leaves the beeper playing while the window is not paused.
-/

namespace Chip8

/-- A frame leaves a device running, or halts it by a fault. -/
theorem Device.running_or_fault_tick {device : Device} (hrunning : device.running = true)
    (delta : Float) :
    (device.tick delta).device.running = true ∨
      (device.tick delta).device.fault.isSome = true := by
  have hreport := frameReport_of_running hrunning delta
  cases hstill : (device.tick delta).device.running with
  | true => exact Or.inl rfl
  | false =>
    obtain ⟨fault, hlast⟩ := hreport.halted.2 ⟨hrunning, hstill⟩
    rw [hreport.fault fault hlast]
    exact Or.inr rfl

namespace Window

variable {window : Window} {actions : List Action}

/-- What the sound timer of the window's device stands at. -/
def soundTimer (window : Window) : Int :=
  Timer.sound.value window.device.machine.cpu

/-- The machines at the instructions that are executed for an action. -/
def trail (window : Window) : Action → List Machine
  | .update delta => if window.paused then [] else window.device.trail (.tick (.ok delta))
  | _ => []

/-- The machines at the instructions that are executed for some actions. -/
def trailDuring (window : Window) : List Action → List Machine
  | [] => []
  | action :: rest => window.trail action ++ (window.perform action).trailDuring rest

/-- Whether an action is a frame that begins with a window of a kind and leaves the beeper
playing. -/
def plays (kind : Window → Bool) (window : Window) : Action → Bool
  | .update delta => kind window && (window.perform (.update delta)).beeper.playing
  | .events _ | .render => false

/-- How many frames begin with a window of a kind and leave the beeper playing. -/
def countPlaying (kind : Window → Bool) (window : Window) : List Action → Nat
  | [] => 0
  | action :: rest =>
    (window.plays kind action).toNat + (window.perform action).countPlaying kind rest

/-! ## One action -/

/-- The tone of a beeper stays. -/
theorem sound_perform (window : Window) (action : Action) :
    (window.perform action).beeper.sound = window.beeper.sound := by
  cases action with
  | events batch =>
    refine perform_events_induction
      (motive := fun later => later.beeper.sound = window.beeper.sound)
      (fun _ event later hsound hhandled => ?_) rfl batch
    cases hhandled <;> exact hsound
  | update delta => rw [perform, value_update, Beeper.value_update]
  | render => rfl

theorem sound_after (window : Window) (actions : List Action) :
    (window.after actions).beeper.sound = window.beeper.sound := by
  induction actions generalizing window with
  | nil => rfl
  | cons action rest ih => exact (ih _).trans (sound_perform window action)

/-- A frame leaves a beeper playing that has a tone, if the window is not paused and the sound timer
is above zero. -/
theorem playing_update (hsound : window.beeper.sound.isSome = true) (delta : Float) :
    (window.perform (.update delta)).beeper.playing =
      (!window.paused && decide (0 < (window.perform (.update delta)).soundTimer)) := by
  rw [perform, value_update, Beeper.value_update, if_pos hsound]
  rfl

/-- The sound timer after a frame: what the last instruction puts into it that sets it, or else one
less, if the device runs and is not yet at zero. -/
theorem soundTimer_update (window : Window) (delta : Float) :
    (window.perform (.update delta)).soundTimer =
      (Timer.sound.lastStored? (window.trail (.update delta))).getD
        (if !window.paused && window.device.running then Cpu.countDown window.soundTimer
        else window.soundTimer) := by
  have hdevice : (window.perform (.update delta)).device = window.deviceAfter delta := by
    rw [perform, value_update]
  rw [soundTimer, hdevice, deviceAfter, trail]
  cases window.paused with
  | true => rfl
  | false =>
    have hserved := @Device.timer_serve window.device (.tick (.ok delta)) .sound rfl
    rw [Request.passesTimers, Bool.and_true] at hserved
    exact hserved

/-- Events leave the sound timer, or start the program over with the timer at zero. -/
theorem soundTimer_events (window : Window) (batch : List HostEvent) :
    (window.perform (.events batch)).soundTimer = window.soundTimer ∨
      (window.perform (.events batch)).soundTimer = 0 := by
  refine perform_events_induction
    (motive := fun later => later.soundTimer = window.soundTimer ∨ later.soundTimer = 0)
    (fun before event later htimer hhandled => ?_) (Or.inl rfl) batch
  cases hhandled with
  | restarted => exact Or.inr rfl
  | passed hpause hrestart key pressed =>
    obtain ⟨-, -, htimers⟩ := before.device.switch_setKey key pressed
    have hkept : Timer.sound.value (before.device.setKey key pressed).value.machine.cpu =
      before.soundTimer := htimers .sound
    rw [soundTimer, hkept]
    exact htimer
  | toggled | closed | ignored => exact htimer

/-- The device of a window runs, or a fault halted it. -/
def Live (window : Window) : Prop :=
  window.device.running = true ∨ window.device.fault.isSome = true

theorem Live.perform (h : window.Live) (action : Action) : (window.perform action).Live := by
  cases action with
  | events batch =>
    refine perform_events_induction (motive := Live) (fun before event later hlive hhandled => ?_)
      h batch
    cases hhandled with
    | restarted => exact Or.inl rfl
    | passed hpause hrestart key pressed =>
      obtain ⟨hrunning, hfault, -⟩ := before.device.switch_setKey key pressed
      rw [Live, hrunning, hfault]
      exact hlive
    | toggled | closed | ignored => exact hlive
  | update delta =>
    rw [Window.perform, value_update]
    unfold Live deviceAfter
    split
    next => exact h
    next =>
      cases hrunning : window.device.running with
      | true => exact Device.running_or_fault_tick hrunning delta
      | false =>
        rw [Device.tick_of_not_running hrunning]
        exact h
  | render => exact h

theorem Live.after (h : window.Live) (actions : List Action) : (window.after actions).Live := by
  induction actions generalizing window with
  | nil => exact h
  | cons action rest ih => exact ih (h.perform action)

/-! ## Frames that leave the beeper playing -/

/-- While no fault halts the device, every frame finds it running. -/
theorem Live.countPlaying_eq (h : window.Live)
    (hfaultless : ∀ early later, actions = early ++ later →
      (window.after early).device.fault = none) :
    window.countPlaying (fun _ => true) actions =
      window.countPlaying (·.device.running) actions := by
  induction actions generalizing window with
  | nil => rfl
  | cons action rest ih =>
    have hnone : window.device.fault = none := hfaultless [] _ rfl
    have hrunning : window.device.running = true := by
      rcases h with hrunning | hfault
      · exact hrunning
      · rw [hnone] at hfault
        cases hfault
    have hplays : window.plays (fun _ => true) action =
        window.plays (·.device.running) action := by
      cases action with
      | update delta => rw [plays, plays, hrunning]
      | events | render => rfl
    have hrest := ih (h.perform action) fun early later hsplit =>
      hfaultless (action :: early) later (congrArg _ hsplit)
    rw [countPlaying, countPlaying, hplays, hrest]

/-- What is left to play of a tone when the sound timer stands at some value: no frame at zero, and
none at one, which the next frame counts down to zero. -/
def playsLeft (timer : Int) : Nat :=
  (timer - 1).toNat

/-- An action that does not set the sound timer leaves no more to play than there was, and less if
it is a frame of a running device that leaves the beeper playing. -/
theorem plays_add_playsLeft_le (hsound : window.beeper.sound.isSome = true) {action : Action}
    (hnone : Timer.sound.lastStored? (window.trail action) = none) :
    (window.plays (·.device.running) action).toNat + playsLeft (window.perform action).soundTimer ≤
      playsLeft window.soundTimer := by
  cases action with
  | render => exact Nat.le_of_eq (Nat.zero_add _)
  | events batch =>
    rw [plays, Bool.toNat_false, Nat.zero_add]
    rcases soundTimer_events window batch with htimer | htimer
    · exact Nat.le_of_eq (congrArg playsLeft htimer)
    · rw [htimer]
      exact Nat.zero_le _
  | update delta =>
    have htimer := soundTimer_update window delta
    rw [hnone, Option.getD_none] at htimer
    rw [plays, playing_update hsound]
    generalize (window.perform (.update delta)).soundTimer = timer at htimer ⊢
    cases hticks : !window.paused && window.device.running with
    | false =>
      -- The timer stands still, and the frame does not count.
      have hcount : (window.device.running && (!window.paused && decide (0 < timer))) = false := by
        rw [← Bool.and_assoc, Bool.and_comm window.device.running, hticks, Bool.false_and]
      rw [hticks, if_neg Bool.false_ne_true] at htimer
      rw [hcount, Bool.toNat_false, Nat.zero_add]
      exact Nat.le_of_eq (congrArg playsLeft htimer)
    | true =>
      obtain ⟨hpaused, hrunning⟩ := Bool.and_eq_true_iff.1 hticks
      rw [hticks, if_pos rfl] at htimer
      rw [hpaused, hrunning, Bool.true_and, Bool.true_and, htimer]
      unfold playsLeft Cpu.countDown
      by_cases hpositive : 0 < window.soundTimer
      · rw [if_pos hpositive]
        by_cases hplays : 0 < window.soundTimer - 1
        · rw [decide_eq_true hplays, Bool.toNat_true]
          omega
        · rw [decide_eq_false hplays, Bool.toNat_false]
          omega
      · rw [if_neg hpositive, decide_eq_false hpositive, Bool.toNat_false]
        omega

/-- While no instruction sets the sound timer, no more frames of a running device leave the beeper
playing than are left. -/
theorem countPlaying_le_playsLeft (hsound : window.beeper.sound.isSome = true)
    (hnone : Timer.sound.lastStored? (window.trailDuring actions) = none) :
    window.countPlaying (·.device.running) actions ≤ playsLeft window.soundTimer := by
  induction actions generalizing window with
  | nil => exact Nat.zero_le _
  | cons action rest ih =>
    rw [trailDuring, Timer.lastStored?_append, Option.or_eq_none_iff] at hnone
    obtain ⟨hlater, hnow⟩ := hnone
    have hkept : (window.perform action).beeper.sound.isSome = true := by
      rw [sound_perform]
      exact hsound
    calc window.countPlaying (·.device.running) (action :: rest)
      _ = (window.plays (·.device.running) action).toNat +
          (window.perform action).countPlaying (·.device.running) rest := rfl
      _ ≤ (window.plays (·.device.running) action).toNat +
          playsLeft (window.perform action).soundTimer := Nat.add_le_add_left (ih hkept hlater) _
      _ ≤ playsLeft window.soundTimer := plays_add_playsLeft_le hsound hnow

/-- A device that does not run keeps its sound timer, and with it the tone: every frame of a window
that is not paused leaves the beeper playing. -/
theorem countPlaying_of_not_running (hsound : window.beeper.sound.isSome = true)
    (hpaused : window.paused = false) (hstopped : window.device.running = false)
    (htimer : 0 < window.soundTimer) (deltas : List Float) :
    window.countPlaying (fun _ => true) (deltas.map .update) = deltas.length := by
  induction deltas generalizing window with
  | nil => rfl
  | cons delta rest ih =>
    have hdevice : (window.perform (.update delta)).device = window.device := by
      rw [perform, value_update, deviceAfter, hpaused, if_neg Bool.false_ne_true,
        Device.tick_of_not_running hstopped]
    have hpaused' : (window.perform (.update delta)).paused = false := by
      rw [perform, value_update]
      exact hpaused
    have htimer' : 0 < (window.perform (.update delta)).soundTimer := by
      rw [soundTimer, hdevice]
      exact htimer
    have hplays : window.plays (fun _ => true) (.update delta) = true := by
      rw [plays, playing_update hsound, hpaused, decide_eq_true htimer']
      rfl
    have hrest := @ih (window.perform (.update delta)) (by rw [sound_perform]; exact hsound)
      hpaused' (by rw [hdevice]; exact hstopped) htimer'
    rw [List.map_cons, countPlaying, hplays, hrest, List.length_cons, Bool.toNat_true,
      Nat.add_comm]

/-! ## The whole tone -/

/-- Instructions are executed in a frame only if the window is not paused and its device runs. -/
theorem runs_of_lastStored? {delta : Float} {value : Int}
    (h : Timer.sound.lastStored? (window.trail (.update delta)) = some value) :
    window.paused = false ∧ window.device.running = true := by
  rw [trail, Device.trail] at h
  cases hpaused : window.paused with
  | true =>
    rw [hpaused, if_pos rfl] at h
    cases h
  | false =>
    cases hrunning : window.device.running with
    | true => exact ⟨rfl, rfl⟩
    | false =>
      rw [hpaused, hrunning, if_neg Bool.false_ne_true, if_neg Bool.false_ne_true] at h
      cases h

/-- From the frame on in which an instruction sets the sound timer for the last time, no more frames
of a running device leave the beeper playing than the timer was set to. -/
theorem countPlaying_le_of_lastStored? (hsound : window.beeper.sound.isSome = true) {delta : Float}
    {value : Int} (hset : Timer.sound.lastStored? (window.trail (.update delta)) = some value)
    (hnone :
      Timer.sound.lastStored? ((window.perform (.update delta)).trailDuring actions) = none) :
    window.countPlaying (·.device.running) (.update delta :: actions) ≤ value.toNat := by
  have htimer : (window.perform (.update delta)).soundTimer = value := by
    rw [soundTimer_update, hset, Option.getD_some]
  have hkept : (window.perform (.update delta)).beeper.sound.isSome = true := by
    rw [sound_perform]
    exact hsound
  have hlater := countPlaying_le_playsLeft hkept hnone
  rw [htimer, playsLeft] at hlater
  have hpositive : window.plays (·.device.running) (.update delta) = true → 0 < value := by
    rw [plays, playing_update hsound, htimer]
    intro hplays
    simp only [Bool.and_eq_true, decide_eq_true_eq] at hplays
    exact hplays.2.2
  rw [countPlaying]
  cases hfirst : window.plays (·.device.running) (.update delta) with
  | true =>
    have hvalue := hpositive hfirst
    rw [Bool.toNat_true]
    omega
  | false =>
    rw [Bool.toNat_false]
    omega

/-- In some frame an instruction sets the sound timer, and no instruction sets it after that one.
Of the frames from this one on that find the device running, no more leave the beeper playing than
the timer was set to; and if no fault halts the device, this is all the frames that do.  A device
that does not run in the end was halted by a fault.  If its timer stands above zero then, and the
window is not paused, every frame leaves the beeper playing, however many there are. -/
theorem tone_lasts (hsound : window.beeper.sound.isSome = true) {delta : Float} {value : Int}
    (hset : Timer.sound.lastStored? (window.trail (.update delta)) = some value)
    (late : List Action)
    (hnone :
      Timer.sound.lastStored? ((window.perform (.update delta)).trailDuring late) = none) :
    let begun := window.perform (.update delta)
    let frames := .update delta :: late
    window.countPlaying (·.device.running) frames ≤ value.toNat ∧
      ((∀ early rest, late = early ++ rest → (begun.after early).device.fault = none) →
        window.countPlaying (fun _ => true) frames ≤ value.toNat) ∧
      ((begun.after late).device.running = false →
        (begun.after late).device.fault.isSome = true ∧
          ((begun.after late).paused = false →
            0 < (begun.after late).device.machine.cpu.sound →
            ∀ deltas : List Float,
              (begun.after late).countPlaying (fun _ => true) (deltas.map .update) =
                deltas.length)) := by
  intro begun frames
  obtain ⟨-, hrunning⟩ := runs_of_lastStored? hset
  have hlive : begun.Live := Live.perform (Or.inl hrunning) _
  have hbound : window.countPlaying (·.device.running) frames ≤ value.toNat :=
    countPlaying_le_of_lastStored? hsound hset hnone
  refine ⟨hbound, fun hfaultless => ?_, fun hstopped => ⟨?_, fun hpaused hpositive deltas => ?_⟩⟩
  · have hfirst : window.plays (fun _ => true) (.update delta) =
        window.plays (·.device.running) (.update delta) := by
      rw [plays, plays, hrunning]
    have hsame : window.countPlaying (fun _ => true) frames =
        window.countPlaying (·.device.running) frames := by
      have hlater := hlive.countPlaying_eq hfaultless
      rw [countPlaying, countPlaying, hfirst]
      exact congrArg _ hlater
    rw [hsame]
    exact hbound
  · rcases hlive.after late with hruns | hfault
    · rw [hstopped] at hruns
      cases hruns
    · exact hfault
  · have hsounds : (begun.after late).beeper.sound.isSome = true := by
      rw [sound_after, sound_perform]
      exact hsound
    exact countPlaying_of_not_running hsounds hpaused hstopped hpositive deltas

/-- A program sets the sound timer to three and then jumps to the last byte of memory, which halts
the device in the same frame.  A pause comes and goes. -/
theorem tone_lasts_halted :
    ∃ created, Device.create .standard 0 = .ok created ∧
      let rom : Rom := ⟨[0x60, 0x03, 0xF0, 0x18, 0x1F, 0xFF], by decide⟩
      let device := created.after [.loadRom rom.bytes, .start]
      let late : List Action := [.events [pauseEvent], .update 0, .events [pauseEvent]]
      let window := (opened device rom "game" 12 (768, 384) ⟨0, 255, 0⟩ .working).value
      window.beeper.sound.isSome = true ∧
        Timer.sound.lastStored? (window.trail (.update 0)) = some 3 ∧
        Timer.sound.lastStored? ((window.perform (.update 0)).trailDuring late) = none ∧
        window.countPlaying (·.device.running) (.update 0 :: late) ≤ 3 ∧
        ∀ deltas : List Float,
          ((window.perform (.update 0)).after late).countPlaying (fun _ => true)
            (deltas.map .update) = deltas.length := by
  refine ⟨_, rfl, ?_⟩
  intro rom device late window
  obtain ⟨hsound, hset, hnone, hstopped, hpaused, hpositive⟩ :
      window.beeper.sound.isSome = true ∧
        Timer.sound.lastStored? (window.trail (.update 0)) = some 3 ∧
        Timer.sound.lastStored? ((window.perform (.update 0)).trailDuring late) = none ∧
        ((window.perform (.update 0)).after late).device.running = false ∧
        ((window.perform (.update 0)).after late).paused = false ∧
        0 < ((window.perform (.update 0)).after late).device.machine.cpu.sound := by
    decide +kernel
  obtain ⟨hbound, -, hhalted⟩ := tone_lasts hsound hset late hnone
  have hthree : window.countPlaying (·.device.running) (.update 0 :: late) ≤ 3 :=
    Nat.le_trans hbound (by decide)
  obtain ⟨-, hendless⟩ := hhalted hstopped
  exact ⟨hsound, hset, hnone, hthree, hendless hpaused hpositive⟩

/-- Of a tone of one frame three frames leave the beeper playing, because a fault halts the device
in the first of them. -/
theorem tone_outlasts_timer :
    ∃ created, Device.create .standard 0 = .ok created ∧
      let rom : Rom := ⟨[0x60, 0x01, 0xF0, 0x18, 0x1F, 0xFF], by decide⟩
      let device := created.after [.loadRom rom.bytes, .start]
      let window := (opened device rom "game" 12 (768, 384) ⟨0, 255, 0⟩ .working).value
      window.beeper.sound.isSome = true ∧
        Timer.sound.lastStored? (window.trail (.update 0)) = some 1 ∧
        Timer.sound.lastStored?
          ((window.perform (.update 0)).trailDuring [.update 0, .update 0]) = none ∧
        ¬window.countPlaying (fun _ => true) [.update 0, .update 0, .update 0] ≤ 1 := by
  refine ⟨_, rfl, ?_⟩
  intro rom device
  decide +kernel

end Window
end Chip8
