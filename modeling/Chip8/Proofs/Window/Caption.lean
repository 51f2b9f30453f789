import Mathlib.Data.List.Induction
import Chip8.Proofs.Window.Session

/-!
# What the caption tells

The caption of a window tells its name, whether it is paused and which fault halted its device
(`Window.caption_after_actions`).  There is one exception.  Pausing and resuming write the caption
without a fault, and no frame writes the fault again, so that behind such a key a halted device
looks like any other until the program is started over (`Window.HidesFault`).

The proof goes along the steps of a run: `Window.Told` says what the caption tells, given whether
the fault is hidden, and `Window.Told.take` is what a step makes of it.
-/

namespace Chip8

namespace Device

variable {device : Device}

/-- A frame that does not halt the device leaves it running or not, and its fault. -/
theorem fault_tick_of_not_halting (delta : Float)
    (h : (device.running && !(device.tick delta).device.running) = false) :
    (device.tick delta).device.running = device.running ∧
      (device.tick delta).device.fault = device.fault := by
  cases hrunning : device.running with
  | false =>
    rw [tick_of_not_running hrunning]
    exact ⟨hrunning, rfl⟩
  | true =>
    have hkept : (device.tick delta).device.running = true →
        (device.tick delta).device.fault = device.fault := by
      refine tick_induction
        (motive := fun other => other.running = true → other.fault = device.fault)
        (fun other hother _ => ?_) delta (fun _ => rfl) (fun _ => rfl)
      rcases cycle_cases other with ⟨fault, trace, -, hcycle⟩ | ⟨instruction, trace, hcycle⟩
      · rw [hcycle]
        intro hstill
        cases hstill
      · rw [hcycle]
        exact hother
    have hstill : (device.tick delta).device.running = true := by simpa [hrunning] using h
    exact ⟨hstill, hkept hstill⟩

end Device

namespace Window

theorem fault_deviceAfter (window : Window) (delta : Float)
    (h : (window.device.running && !(window.deviceAfter delta).running) = false) :
    (window.deviceAfter delta).running = window.device.running ∧
      (window.deviceAfter delta).fault = window.device.fault := by
  unfold deviceAfter at h ⊢
  split at h
  next hpaused =>
    rw [if_pos hpaused]
    exact ⟨rfl, rfl⟩
  next hpaused =>
    rw [if_neg hpaused]
    exact Device.fault_tick_of_not_halting delta h

variable {window : Window} {steps : List Step} {step : Step}

/-- A key that pauses or resumes has come while a fault had halted the device, and the program has
not been started over since. -/
def HidesFault (window : Window) (steps : List Step) : Prop :=
  ∃ early late, steps = early ++ .event pauseEvent :: late ∧
    (window.afterSteps early).device.fault.isSome = true ∧ .event restartEvent ∉ late

/-- Whether the fault is hidden after one step more. -/
def HidesNext (window : Window) (hidden : Prop) (step : Step) : Prop :=
  step = .event pauseEvent ∧ window.device.fault.isSome = true ∨
    hidden ∧ step ≠ .event restartEvent

theorem hidesNext_iff_of_other {hidden : Prop} (hpause : step ≠ .event pauseEvent)
    (hrestart : step ≠ .event restartEvent) : window.HidesNext hidden step ↔ hidden := by
  constructor
  · rintro (⟨hstep, -⟩ | ⟨hhidden, -⟩)
    · exact absurd hstep hpause
    · exact hhidden
  · intro hhidden
    exact Or.inr ⟨hhidden, hrestart⟩

theorem not_hidesFault_nil (window : Window) : ¬window.HidesFault [] := by
  rintro ⟨early, late, hsteps, -, -⟩
  cases early <;> cases hsteps

theorem hidesFault_concat_iff :
    window.HidesFault (steps ++ [step]) ↔
      (window.afterSteps steps).HidesNext (window.HidesFault steps) step := by
  constructor
  · rintro ⟨early, late, hsteps, hfault, hlate⟩
    rcases List.eq_nil_or_concat late with rfl | ⟨late, last, rfl⟩
    · obtain ⟨rfl, hlast⟩ := List.append_inj' hsteps rfl
      cases hlast
      exact Or.inl ⟨rfl, hfault⟩
    · rw [List.concat_eq_append] at hsteps hlate
      rw [← List.cons_append, ← List.append_assoc] at hsteps
      obtain ⟨rfl, hlast⟩ := List.append_inj' hsteps rfl
      cases hlast
      rw [List.mem_append, not_or] at hlate
      refine Or.inr ⟨⟨early, late, rfl, hfault, hlate.1⟩, fun hrestart => hlate.2 ?_⟩
      rw [hrestart]
      exact List.mem_singleton.2 rfl
  · rintro (⟨rfl, hfault⟩ | ⟨⟨early, late, rfl, hfault, hlate⟩, hstep⟩)
    · exact ⟨steps, [], rfl, hfault, List.not_mem_nil⟩
    · refine ⟨early, late ++ [step], by simp, hfault, ?_⟩
      rw [List.mem_append, not_or]
      exact ⟨hlate, fun hmem => hstep (List.mem_singleton.1 hmem).symm⟩

/-- What the caption of a window tells, given whether its device's fault is hidden. -/
structure Told (name : String) (window : Window) (hidden : Prop) : Prop where
  named : window.name = name
  halted : window.device.fault.isSome = true → window.device.running = false
  shown : ¬hidden → window.caption = captionFor name window.paused window.device.fault
  hides : hidden → window.device.fault.isSome = true ∧
    window.caption = captionFor name window.paused none

namespace Told

variable {name : String} {hidden : Prop} {event : HostEvent} {later : Window}

/-- A step that neither writes the caption nor changes what it tells keeps what it told. -/
theorem of_unchanged (h : Told name window hidden) (hpause : step ≠ .event pauseEvent)
    (hrestart : step ≠ .event restartEvent) (hname : later.name = window.name)
    (hpaused : later.paused = window.paused) (hcaption : later.caption = window.caption)
    (hrunning : later.device.running = window.device.running)
    (hfault : later.device.fault = window.device.fault) :
    Told name later (window.HidesNext hidden step) := by
  rw [hidesNext_iff_of_other hpause hrestart]
  refine ⟨hname.trans h.named, ?_, ?_, ?_⟩
  · rw [hfault, hrunning]
    exact h.halted
  · rw [hcaption, hpaused, hfault]
    exact h.shown
  · rw [hcaption, hpaused, hfault]
    exact h.hides

theorem handled (h : Told name window hidden) (hhandled : Handled window event later) :
    Told name later (window.HidesNext hidden (.event event)) := by
  cases hhandled with
  | toggled =>
    refine ⟨h.named, h.halted, fun hshown => ?_, fun hhides => ⟨?_, ?_⟩⟩
    · have hnone : window.device.fault = none := by
        cases hfault : window.device.fault with
        | none => rfl
        | some fault => exact absurd (Or.inl ⟨rfl, by rw [hfault]; rfl⟩) hshown
      simp only [togglePause, writeCaption, h.named, hnone]
    · rcases hhides with ⟨-, hfault⟩ | ⟨hhidden, -⟩
      · exact hfault
      · exact (h.hides hhidden).1
    · simp only [togglePause, writeCaption, h.named]
  | restarted =>
    have hnext : ¬window.HidesNext hidden (.event restartEvent) := by
      rintro (⟨hstep, -⟩ | ⟨-, hstep⟩)
      · cases hstep
      · exact hstep rfl
    refine ⟨h.named, fun hfault => ?_, fun _ => ?_, fun hhides => absurd hhides hnext⟩
    · cases hfault
    · rw [value_restart, ← h.named]
      rfl
  | closed hpause hrestart =>
    exact h.of_unchanged (by simpa using hpause) (by simpa using hrestart) rfl rfl rfl rfl rfl
  | passed hpause hrestart key pressed =>
    obtain ⟨hrunning, hfault, -⟩ := window.device.switch_setKey key pressed
    exact h.of_unchanged (by simpa using hpause) (by simpa using hrestart) rfl rfl rfl hrunning
      hfault
  | ignored hpause hrestart =>
    exact h.of_unchanged (by simpa using hpause) (by simpa using hrestart) rfl rfl rfl rfl rfl

theorem update (h : Told name window hidden) (delta : Float) :
    Told name (window.update delta).value (window.HidesNext hidden (.update delta)) := by
  have hpause : Step.update delta ≠ .event pauseEvent := nofun
  have hrestart : Step.update delta ≠ .event restartEvent := nofun
  rw [value_update]
  cases hhalts : window.device.running && !(window.deviceAfter delta).running with
  | false =>
    obtain ⟨hrunning, hfault⟩ := window.fault_deviceAfter delta hhalts
    exact h.of_unchanged hpause hrestart rfl rfl rfl hrunning hfault
  | true =>
    -- The frame halts the device and writes its fault.  Before it the device ran, and no fault was
    -- hidden.
    obtain ⟨hrunning, hstopped⟩ := Bool.and_eq_true_iff.1 hhalts
    rw [hidesNext_iff_of_other hpause hrestart]
    refine ⟨h.named, fun _ => by simpa using hstopped, fun _ => ?_, fun hhidden => ?_⟩
    · simp only [if_true, h.named]
    · have hnot := h.halted (h.hides hhidden).1
      rw [hrunning] at hnot
      cases hnot

theorem take (h : Told name window hidden) (step : Step) :
    Told name (window.take step) (window.HidesNext hidden step) := by
  cases step with
  | event event => exact h.handled (handled_handle window event)
  | update delta => exact h.update delta
  | render =>
    have hpause : Step.render ≠ .event pauseEvent := nofun
    have hrestart : Step.render ≠ .event restartEvent := nofun
    exact h.of_unchanged hpause hrestart rfl rfl rfl rfl rfl

/-- What the caption tells of a window that it told of before, after some steps. -/
theorem afterSteps (h : Told name window False) (steps : List Step) :
    Told name (window.afterSteps steps) (window.HidesFault steps) := by
  induction steps using List.reverseRecOn with
  | nil =>
    have hnot : window.HidesFault [] ↔ False := iff_false_intro window.not_hidesFault_nil
    rw [hnot]
    exact h
  | append_singleton steps step ih =>
    rw [hidesFault_concat_iff, afterSteps_append]
    exact ih.take step

end Told

/-- A window opens over a device that is not halted.  Whatever is done with it, its caption then is
its name, followed by the news that it is paused, if it is, and by the fault that halted its device,
if one did.  This last part is missing, though the device is halted, from the time that a key pauses
or resumes behind the fault until the program is started over. -/
theorem caption_after_actions {device : Device} (hfault : device.fault = none) (rom : Rom)
    (name : String) (scale : Nat) (size : Nat × Nat) (color : Color) (mixer : Mixer)
    (actions : List Action) :
    let opening := opened device rom name scale size color mixer
    let window := opening.value.after actions
    let hidden := opening.value.HidesFault (actions.flatMap Action.steps)
    (window.device.fault.isSome = true → window.device.running = false) ∧
      (¬hidden → window.caption =
        "chip8vm - " ++ name ++ (if window.paused then " [paused]" else "") ++
          match window.device.fault with
          | none => ""
          | some fault => " [halted: " ++ fault.message ++ "]") ∧
      (hidden → window.device.fault.isSome = true ∧ window.caption =
        "chip8vm - " ++ name ++ (if window.paused then " [paused]" else "")) := by
  intro opening window hidden
  have hopened : Told name opening.value False := by
    refine ⟨rfl, fun hsome => ?_, fun _ => ?_, False.elim⟩
    · rw [value_opened, hfault] at hsome
      cases hsome
    · rw [value_opened, hfault]
  have htold : Told name window hidden := by
    have hsteps : window = _ := after_eq_afterSteps rfl actions
    rw [hsteps]
    exact hopened.afterSteps _
  refine ⟨htold.halted, htold.shown, fun hhidden => ?_⟩
  obtain ⟨hsome, hcaption⟩ := htold.hides hhidden
  exact ⟨hsome, by rw [hcaption, captionFor]; exact String.append_empty⟩

/-- A program that jumps to the last byte of memory halts its device.  The window is paused, which
hides the fault, the program is started over in the same batch, and resumed, and halts once more. -/
theorem caption_after_actions_halted_twice :
    ∃ created, Device.create .standard 0 = .ok created ∧
      let rom : Rom := ⟨[0x1F, 0xFF], by decide⟩
      let device := created.after [.loadRom rom.bytes, .start]
      let actions : List Action :=
        [.update 0, .events [pauseEvent, restartEvent], .events [pauseEvent], .update 0]
      let opening := opened device rom "game" 12 (768, 384) ⟨0, 255, 0⟩ .working
      device.fault = none ∧
        (opening.value.after actions).device.fault = some ⟨.outOfRange 0x1000, some 0xFFF⟩ ∧
        (opening.value.after actions).caption =
          "chip8vm - game [halted: Memory access out of range: $1000 (PC=$FFF)]" := by
  refine ⟨_, rfl, ?_⟩
  intro rom device actions opening
  have hnone : device.fault = none := by decide +kernel
  obtain ⟨hpaused, hfault⟩ : (opening.value.after actions).paused = false ∧
      (opening.value.after actions).device.fault = some ⟨.outOfRange 0x1000, some 0xFFF⟩ := by
    decide +kernel
  have hhidden : ¬opening.value.HidesFault (actions.flatMap Action.steps) := by
    rintro ⟨early, late, hsteps, hhalted, hlate⟩
    -- The key comes twice: with the restart behind it, and when the device runs again.
    match early, hsteps with
    | [_], hsteps =>
      cases hsteps
      exact hlate (by simp)
    | [_, _, _], hsteps =>
      cases hsteps
      revert hhalted
      decide +kernel
    | [], hsteps | [_, _], hsteps | [_, _, _, _], hsteps => cases hsteps
    | _ :: _ :: _ :: _ :: _ :: [], hsteps => cases hsteps
    | _ :: _ :: _ :: _ :: _ :: _ :: _, hsteps => cases hsteps
  obtain ⟨-, hshown, -⟩ :=
    caption_after_actions hnone rom "game" 12 (768, 384) ⟨0, 255, 0⟩ .working actions
  refine ⟨hnone, hfault, ?_⟩
  rw [hshown hhidden, hfault, hpaused]
  decide +kernel

/-- A window that is paused behind a fault does not tell of it. -/
theorem caption_without_fault_behind_pause :
    ∃ created, Device.create .standard 0 = .ok created ∧
      let rom : Rom := ⟨[0x1F, 0xFF], by decide⟩
      let device := created.after [.loadRom rom.bytes, .start]
      let opening := opened device rom "game" 12 (768, 384) ⟨0, 255, 0⟩ .working
      device.fault = none ∧
        let window := opening.value.after [.update 0, .events [pauseEvent]]
        window.paused = true ∧ window.device.fault = some ⟨.outOfRange 0x1000, some 0xFFF⟩ ∧
          window.caption = "chip8vm - game [paused]" ∧
          window.caption ≠
            "chip8vm - game [paused] [halted: Memory access out of range: $1000 (PC=$FFF)]" := by
  refine ⟨_, rfl, ?_⟩
  intro rom device opening
  refine ⟨by decide +kernel, ?_⟩
  intro window
  obtain ⟨hpaused, hfault, hcaption⟩ : window.paused = true ∧
      window.device.fault = some ⟨.outOfRange 0x1000, some 0xFFF⟩ ∧
      window.caption = "chip8vm - game [paused]" := by
    decide +kernel
  refine ⟨hpaused, hfault, hcaption, ?_⟩
  rw [hcaption]
  decide

end Window
end Chip8
