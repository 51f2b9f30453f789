import Chip8.Proofs.Window.MainLoop
import Chip8.Proofs.Window.Pause
import Chip8.Proofs.Window.Tone

/-!
# The beeper follows the machine

Of all that is done with a window only frames call the mixer, and a frame at most once: it tells the
beeper whether to sound (`Window.sounds`), and the beeper passes on what is news
(`Beeper.callsFor`).  So the calls during a run can be read off what the beeper is told in it, and
play and stop take turns (`Beeper.getElem?_callsFor`).  The main loop ends with telling the beeper
to be silent, which makes up for a tone that sounds (`Beeper.count_callsFor`).

That the log has no part in the calls is said by `Traced.LeavesMixer`.
-/

namespace Chip8

/-! ## Effects without calls of the mixer -/

namespace Effect

theorem mixerOf_append (first second : Array Effect) :
    mixerOf (first ++ second) = mixerOf first ++ mixerOf second := by
  simp only [mixerOf, Array.toList_append, List.filterMap_append]

theorem mixerOf_log (entries : Array Log.Entry) : mixerOf (entries.map .log) = [] := by
  simp [mixerOf]

end Effect

namespace Traced

variable {α β : Type}

/-- Nothing on the way to the value calls the mixer. -/
def LeavesMixer (x : Effectful α) : Prop :=
  Effect.mixerOf x.trace = []

theorem leavesMixer_pure (a : α) : LeavesMixer (pure a) := rfl

theorem leavesMixer_logged (x : Logged α) : x.logged.LeavesMixer :=
  Effect.mixerOf_log x.trace

theorem LeavesMixer.mixerOf_bind {x : Effectful α} (h : x.LeavesMixer) (f : α → Effectful β) :
    Effect.mixerOf (x >>= f).trace = Effect.mixerOf (f x.value).trace := by
  have hfirst : Effect.mixerOf x.trace = [] := h
  rw [trace_bind, Effect.mixerOf_append, hfirst, List.nil_append]

theorem LeavesMixer.bind {x : Effectful α} {f : α → Effectful β} (hx : x.LeavesMixer)
    (hf : ∀ a, (f a).LeavesMixer) : (x >>= f).LeavesMixer :=
  (hx.mixerOf_bind f).trans (hf x.value)

theorem leavesMixer_foldlM {f : β → α → Effectful β} (hf : ∀ b a, (f b a).LeavesMixer)
    (items : List α) (b : β) : (items.foldlM f b).LeavesMixer := by
  induction items generalizing b with
  | nil => exact leavesMixer_pure b
  | cons item rest ih => exact (hf b item).bind ih

end Traced

/-! ## The beeper -/

namespace Beeper

/-- The call that makes the tone begin or end. -/
def switchCall (active : Bool) : MixerCall :=
  if active then .play (-1) else .stop

/-- The calls for a beeper that is told, one time after the other, whether to sound: one for each
time that it is told what it does not do already. -/
def callsFor (playing : Bool) : List Bool → List MixerCall
  | [] => []
  | told :: rest =>
    if told = playing then callsFor playing rest else switchCall told :: callsFor told rest

/-- Calls to play and to stop take turns, beginning with one to play. -/
def TakeTurns (calls : List MixerCall) : Prop :=
  ∀ k call, calls[k]? = some call → call = if k % 2 = 0 then .play (-1) else .stop

/-- The calls take turns, and the first one changes whether the tone sounds. -/
theorem getElem?_callsFor {playing : Bool} {told : List Bool} {k : Nat} {call : MixerCall}
    (h : (callsFor playing told)[k]? = some call) :
    call = switchCall (playing ^^ k % 2 = 0) := by
  induction told generalizing playing k with
  | nil => cases h
  | cons active rest ih =>
    rw [callsFor] at h
    split at h
    next => exact ih h
    next hnews =>
      have hactive : active = !playing := Bool.eq_not.2 hnews
      cases k with
      | zero =>
        rw [List.getElem?_cons_zero, Option.some.injEq] at h
        rw [← h, hactive]
        simp
      | succ k =>
        have hodd : decide ((k + 1) % 2 = 0) = !decide (k % 2 = 0) := by
          rw [← decide_not]
          exact decide_eq_decide.2 (by omega)
        rw [List.getElem?_cons_succ] at h
        rw [ih h, hactive, hodd, Bool.not_xor, Bool.xor_not]

theorem takeTurns_callsFor (told : List Bool) : TakeTurns (callsFor false told) := by
  intro k call h
  rw [getElem?_callsFor h, switchCall, Bool.false_xor]
  simp only [decide_eq_true_eq]

theorem callsFor_cons (playing active : Bool) (rest : List Bool) :
    callsFor playing (active :: rest) = callsFor playing [active] ++ callsFor active rest := by
  simp only [callsFor]
  split
  next hsame => rw [hsame, List.nil_append]
  next => rfl

theorem getLastD_append (playing : Bool) (first second : List Bool) :
    (first ++ second).getLastD playing = second.getLastD (first.getLastD playing) := by
  simp only [List.getLastD_eq_getLast?, List.getLast?_append, Option.getD_or]

theorem callsFor_append (playing : Bool) (first second : List Bool) :
    callsFor playing (first ++ second) =
      callsFor playing first ++ callsFor (first.getLastD playing) second := by
  induction first generalizing playing with
  | nil => rfl
  | cons active rest ih =>
    rw [List.cons_append, callsFor_cons, ih, callsFor_cons playing active rest,
      List.append_assoc, List.getLastD_cons]

/-- Whether the tone sounds is how far the calls to play are ahead of the calls to stop. -/
theorem count_callsFor (playing : Bool) (told : List Bool) :
    (callsFor playing told).count (.play (-1)) + playing.toNat =
      (callsFor playing told).count .stop + (told.getLastD playing).toNat := by
  induction told generalizing playing with
  | nil => rfl
  | cons active rest ih =>
    -- One time is a matter of four cases, and the times add up.
    have hlater := ih active
    have hone : (callsFor playing [active]).count (.play (-1)) + playing.toNat =
        (callsFor playing [active]).count .stop + active.toNat := by
      cases playing <;> cases active <;> rfl
    rw [callsFor_cons, List.count_append, List.count_append, List.getLastD_cons]
    omega

/-- What a beeper takes notice of: without a tone nothing. -/
def heard (beeper : Beeper) (told : List Bool) : List Bool :=
  if beeper.sound.isSome then told else []

/-- From one beeper to a later one, which was told something in between: `effects` has the calls for
it, and the later one plays as it was told last. -/
structure Followed (beeper : Beeper) (told : List Bool) (effects : Array Effect)
    (later : Beeper) : Prop where
  calls : Effect.mixerOf effects = callsFor beeper.playing (beeper.heard told)
  playing : later.playing = (beeper.heard told).getLastD beeper.playing
  sound : later.sound = beeper.sound

variable {beeper between later : Beeper}

theorem heard_of_isSome (h : beeper.sound.isSome = true) (told : List Bool) :
    beeper.heard told = told :=
  if_pos h

theorem heard_of_isNone (h : beeper.sound.isSome = false) (told : List Bool) :
    beeper.heard told = [] :=
  if_neg (by rw [h]; exact Bool.false_ne_true)

theorem followed_update (beeper : Beeper) (active : Bool) :
    beeper.Followed [active] (beeper.update active).trace (beeper.update active).value := by
  rw [update]
  cases hsound : beeper.sound.isSome with
  | false =>
    have hheard := heard_of_isNone hsound [active]
    have hkept : (beeper.sound.isNone || active == beeper.playing) = true := by
      rw [← Option.not_isSome, hsound]
      rfl
    rw [if_pos hkept]
    exact ⟨by rw [hheard]; rfl, by rw [hheard]; rfl, rfl⟩
  | true =>
    have hheard := heard_of_isSome hsound [active]
    rw [← Option.not_isSome, hsound, Bool.not_true, Bool.false_or]
    by_cases hsame : active = beeper.playing
    · rw [if_pos (beq_iff_eq.2 hsame)]
      refine ⟨?_, by rw [hheard]; exact hsame.symm, rfl⟩
      rw [hheard, callsFor, if_pos hsame]
      rfl
    · rw [if_neg (mt beq_iff_eq.1 hsame)]
      refine ⟨?_, by rw [hheard]; rfl, rfl⟩
      rw [hheard, callsFor, if_neg hsame]
      rfl

namespace Followed

variable {told told' : List Bool} {effects effects' : Array Effect}

/-- A beeper that was told nothing does nothing. -/
theorem nothing (hcalls : Effect.mixerOf effects = []) (hplaying : later.playing = beeper.playing)
    (hsound : later.sound = beeper.sound) : beeper.Followed [] effects later := by
  have hheard : beeper.heard [] = [] := ite_self _
  exact ⟨by rw [hcalls, hheard]; rfl, by rw [hplaying, hheard]; rfl, hsound⟩

theorem of_isSome (h : beeper.Followed told effects later) (hsound : beeper.sound.isSome = true) :
    Effect.mixerOf effects = callsFor beeper.playing told ∧
      later.playing = told.getLastD beeper.playing := by
  have hheard := heard_of_isSome hsound told
  exact ⟨by rw [h.calls, hheard], by rw [h.playing, hheard]⟩

theorem of_isNone (h : beeper.Followed told effects later) (hsilent : beeper.sound.isSome = false) :
    Effect.mixerOf effects = [] ∧ later.playing = beeper.playing := by
  have hheard := heard_of_isNone hsilent told
  exact ⟨by rw [h.calls, hheard, callsFor], by rw [h.playing, hheard]; rfl⟩

theorem takeTurns (h : beeper.Followed told effects later) (hsound : beeper.sound.isSome = true)
    (hoff : beeper.playing = false) : TakeTurns (Effect.mixerOf effects) := by
  rw [(h.of_isSome hsound).1, hoff]
  exact takeTurns_callsFor told

/-- From silence to silence there are as many calls to play as to stop. -/
theorem balanced (h : beeper.Followed (told ++ [false]) effects later)
    (hsound : beeper.sound.isSome = true) (hoff : beeper.playing = false) :
    (Effect.mixerOf effects).count (.play (-1)) = (Effect.mixerOf effects).count .stop ∧
      later.playing = false := by
  obtain ⟨hcalls, hplaying⟩ := h.of_isSome hsound
  have hlast : (told ++ [false]).getLastD beeper.playing = false := List.getLastD_concat
  have hcount := count_callsFor beeper.playing (told ++ [false])
  rw [← hcalls, hlast, hoff] at hcount
  exact ⟨hcount, hplaying.trans hlast⟩

theorem append (first : beeper.Followed told effects between)
    (second : between.Followed told' effects' later) :
    beeper.Followed (told ++ told') (effects ++ effects') later := by
  have hheard : beeper.heard (told ++ told') = beeper.heard told ++ between.heard told' := by
    simp only [heard, first.sound]
    split <;> rfl
  refine ⟨?_, ?_, second.sound.trans first.sound⟩
  · rw [Effect.mixerOf_append, first.calls, second.calls, hheard, callsFor_append, first.playing]
  · rw [second.playing, first.playing, hheard, getLastD_append]

end Followed

end Beeper

namespace Window

variable {window : Window}

/-- Whether the tone is called for: the window is not paused and the sound timer is above zero. -/
def sounds (window : Window) : Bool :=
  !window.paused && decide (0 < window.soundTimer)

/-- What an action tells the beeper: a frame, whether the tone is called for right behind it. -/
def told (window : Window) : Action → List Bool
  | .update delta => [(window.perform (.update delta)).sounds]
  | .events _ | .render => []

/-- What some actions tell the beeper. -/
def toldDuring (window : Window) : List Action → List Bool
  | [] => []
  | action :: rest => window.told action ++ (window.perform action).toldDuring rest

/-! ## One action -/

theorem leavesMixer_passKey (window : Window) (key : HostKey) (pressed : Bool) :
    (window.passKey key pressed).LeavesMixer := by
  unfold passKey
  cases key.keypadKey? with
  | none => exact Traced.leavesMixer_pure window
  | some digit => exact (Traced.leavesMixer_logged _).bind fun _ => Traced.leavesMixer_pure _

theorem leavesMixer_restart (window : Window) : window.restart.LeavesMixer := by
  refine (Traced.leavesMixer_logged _).bind fun _ => ?_
  exact (Traced.leavesMixer_logged _).bind fun _ => Traced.leavesMixer_pure _

theorem leavesMixer_handle (window : Window) (event : HostEvent) :
    (window.handle event).LeavesMixer := by
  cases event with
  | quit => exact Traced.leavesMixer_pure _
  | keyUp key => exact window.leavesMixer_passKey key false
  | keyDown key =>
    rw [handle]
    split
    next => exact Traced.leavesMixer_pure _
    next =>
      split
      next => exact Traced.leavesMixer_pure _
      next =>
        split
        next => exact window.leavesMixer_restart
        next => exact window.leavesMixer_passKey key true

theorem mixerOf_events (window : Window) (batch : List HostEvent) :
    Effect.mixerOf (window.effects (.events batch)) = [] :=
  Traced.leavesMixer_foldlM leavesMixer_handle _ _

theorem leavesMixer_receive (window : Window) (message : Message) :
    (window.receive message).LeavesMixer := by
  cases message with
  | fault fault => exact Traced.leavesMixer_pure _
  | unknownOpcode word => rfl
  | waitingForKey register => exact Traced.leavesMixer_pure _

/-- All that a frame calls the mixer for is the beeper. -/
theorem mixerOf_update (window : Window) (delta : Float) :
    Effect.mixerOf (window.update delta).trace =
      Effect.mixerOf (window.beeper.update (window.update delta).value.sounds).trace := by
  have hlater : (window.update delta).value.sounds =
      (!window.paused && (window.deviceAfter delta).soundActive) := by
    rw [sounds, value_update]
    rfl
  rw [hlater, update, deviceAfter]
  cases window.paused with
  | true =>
    simp only [if_true, Traced.trace_bind, Traced.trace_pure, Bool.not_true, Bool.false_and,
      Array.append_empty]
  | false =>
    -- The log of the frame and its messages come before the beeper, and leave it and the device
    -- alone.
    have hlog := Traced.leavesMixer_logged
      ⟨(window.device.tick delta).device, (window.device.tick delta).log⟩
    have hmessages (ticked : Window) :
        ((window.device.tick delta).messages.toList.foldlM receive ticked).LeavesMixer :=
      Traced.leavesMixer_foldlM leavesMixer_receive _ _
    have hreceived (ticked : Window) :
        ((window.device.tick delta).messages.toList.foldlM receive ticked).value.beeper =
            ticked.beeper ∧
          ((window.device.tick delta).messages.toList.foldlM receive ticked).value.device =
            ticked.device := by
      rw [value_receive_frame]
      split <;> exact ⟨rfl, rfl⟩
    rw [if_neg Bool.false_ne_true, if_neg Bool.false_ne_true, hlog.mixerOf_bind,
      (hmessages _).mixerOf_bind, Traced.trace_bind, Traced.trace_pure, Array.append_empty,
      (hreceived _).1, (hreceived _).2]
    rfl

/-- An action tells the beeper at most once whether to sound. -/
theorem followed_perform (window : Window) (action : Action) :
    window.beeper.Followed (window.told action) (window.effects action)
      (window.perform action).beeper := by
  cases action with
  | events batch =>
    have hplaying : (window.perform (.events batch)).beeper.playing = window.beeper.playing :=
      perform_events_induction (motive := fun later => later.beeper.playing = window.beeper.playing)
        (fun _ _ _ hplaying hhandled => by cases hhandled <;> exact hplaying) rfl batch
    exact .nothing (window.mixerOf_events batch) hplaying (window.sound_perform _)
  | update delta =>
    have hbeeper : (window.update delta).value.beeper =
        (window.beeper.update (window.update delta).value.sounds).value := by
      rw [sounds, value_update]
      rfl
    have hupdate := window.beeper.followed_update (window.update delta).value.sounds
    exact ⟨(window.mixerOf_update delta).trans hupdate.calls,
      (congrArg Beeper.playing hbeeper).trans hupdate.playing,
      (congrArg Beeper.sound hbeeper).trans hupdate.sound⟩
  | render => exact .nothing rfl rfl rfl

/-! ## Runs -/

theorem followed_after (window : Window) (actions : List Action) :
    window.beeper.Followed (window.toldDuring actions) (window.effectsDuring actions)
      (window.after actions).beeper := by
  induction actions generalizing window with
  | nil => exact .nothing rfl rfl rfl
  | cons action rest ih => exact (window.followed_perform action).append (ih _)

/-- The main loop tells the beeper what its actions tell it, and in the end to be silent. -/
theorem followed_run (window : Window) (passes : List Pass) :
    ∃ actions, window.beeper.Followed (window.toldDuring actions ++ [false])
      (window.run passes).trace (window.run passes).value.beeper := by
  obtain ⟨made, hlooped⟩ := window.exists_loopedFor passes
  refine ⟨(passes.take made).flatMap Pass.actions, ?_⟩
  rw [hlooped.trace, hlooped.value]
  exact (window.followed_after _).append (Beeper.followed_update _ false)

/-- The mixer is opened with a window, and not called before that. -/
theorem mixerOf_opened (device : Device) (rom : Rom) (name : String) (scale : Nat)
    (size : Nat × Nat) (color : Color) (mixer : Mixer) :
    Effect.mixerOf (opened device rom name scale size color mixer).trace =
      [.init 44100 (-16) 1 256] := by
  cases mixer <;> rfl

/-- Whatever is done with a window before its main loop, the beeper is told to be silent last. -/
theorem followed_session (window : Window) (actions : List Action) (passes : List Pass) :
    let ran := (window.after actions).run passes
    ∃ told, window.beeper.Followed (told ++ [false]) (window.effectsDuring actions ++ ran.trace)
      ran.value.beeper := by
  intro ran
  obtain ⟨taken, hfollowed⟩ := (window.after actions).followed_run passes
  refine ⟨window.toldDuring actions ++ (window.after actions).toldDuring taken, ?_⟩
  rw [List.append_assoc]
  exact (window.followed_after actions).append hfollowed

theorem playing_update_iff (hsound : window.beeper.sound.isSome = true) (delta : Float) :
    (window.perform (.update delta)).beeper.playing = true ↔
      (window.perform (.update delta)).paused = false ∧
        0 < (window.perform (.update delta)).device.machine.cpu.sound := by
  have hpaused : (window.perform (.update delta)).paused = window.paused := by
    rw [perform, value_update]
  rw [playing_update hsound, hpaused, Bool.and_eq_true, Bool.not_eq_true', decide_eq_true_eq]
  rfl

/-- The mixer is opened with a window.  If it opens, then in a run right behind every frame the tone
sounds if the window is not paused and the sound timer of its device is above zero, and only then.
The mixer is called once for every change of this from one frame to the next, so that calls to play
and to stop take turns, and the main loop leaves as many of one as of the other behind and the tone
off.  If it does not open, it is not called again, and the tone never sounds.

A frame of a paused window leaves its device as it is.  So a pause that is put into a run where the
window was not paused, with whatever frames and pictures in it, changes no later device. -/
theorem beeper_follows_machine (device : Device) (rom : Rom) (name : String) (scale : Nat)
    (size : Nat × Nat) (color : Color) (mixer : Mixer) :
    let opening := opened device rom name scale size color mixer
    let window := opening.value
    Effect.mixerOf opening.trace = [.init 44100 (-16) 1 256] ∧
      (mixer = .working → ∀ actions : List Action,
        (∀ delta,
          let later := window.after (actions ++ [.update delta])
          later.beeper.playing = true ↔
            later.paused = false ∧ 0 < later.device.machine.cpu.sound) ∧
        Effect.mixerOf (window.effectsDuring actions) =
          Beeper.callsFor false (window.toldDuring actions) ∧
        Beeper.TakeTurns (Effect.mixerOf (window.effectsDuring actions)) ∧
        ∀ passes,
          let ran := (window.after actions).run passes
          let calls := Effect.mixerOf (window.effectsDuring actions ++ ran.trace)
          Beeper.TakeTurns calls ∧ calls.count (.play (-1)) = calls.count .stop ∧
            ran.value.beeper.playing = false) ∧
      (∀ reason, mixer = .failing reason → ∀ actions : List Action,
        Effect.mixerOf (window.effectsDuring actions) = [] ∧
          (window.after actions).beeper.playing = false ∧
          ∀ passes,
            let ran := (window.after actions).run passes
            Effect.mixerOf (window.effectsDuring actions ++ ran.trace) = [] ∧
              ran.value.beeper.playing = false) ∧
      (∀ actions delta, (window.after actions).paused = true →
        (window.after (actions ++ [.update delta])).device = (window.after actions).device) ∧
      ∀ (early still late : List Step) (plain interrupted : List Action),
        (window.afterSteps early).paused = false → (∀ step ∈ still, step.isEvent = false) →
        plain.flatMap Action.steps = early ++ late →
        interrupted.flatMap Action.steps =
          early ++ .event pauseEvent :: (still ++ .event pauseEvent :: late) →
        (window.after interrupted).device = (window.after plain).device := by
  intro opening window
  have hplaying : window.beeper.playing = false := by cases mixer <;> rfl
  refine ⟨mixerOf_opened _ _ _ _ _ _ _, fun hworks actions => ?_, fun reason hfails actions => ?_,
    fun actions delta hpaused => ?_, fun early still late plain interrupted hresumed hstill hplain
      hinterrupted => ?_⟩
  · have hsound : window.beeper.sound.isSome = true := by
      subst hworks
      rfl
    have hactions := window.followed_after actions
    have hcalls := (hactions.of_isSome hsound).1
    rw [hplaying] at hcalls
    refine ⟨fun delta => ?_, hcalls, hactions.takeTurns hsound hplaying, fun passes => ?_⟩
    · have hsounds : (window.after actions).beeper.sound.isSome = true := by
        rw [hactions.sound]
        exact hsound
      rw [after_append]
      exact playing_update_iff hsounds delta
    · obtain ⟨told, hrun⟩ := window.followed_session actions passes
      exact ⟨hrun.takeTurns hsound hplaying, hrun.balanced hsound hplaying⟩
  · have hsilent : window.beeper.sound.isSome = false := by
      subst hfails
      rfl
    obtain ⟨hcalls, hkept⟩ := (window.followed_after actions).of_isNone hsilent
    refine ⟨hcalls, hkept.trans hplaying, fun passes => ?_⟩
    obtain ⟨told, hrun⟩ := window.followed_session actions passes
    obtain ⟨hnone, hstays⟩ := hrun.of_isNone hsilent
    exact ⟨hnone, hstays.trans hplaying⟩
  · rw [after_append]
    exact device_update_of_paused hpaused delta
  · rw [after_eq_afterSteps rfl, after_eq_afterSteps rfl, hplain, hinterrupted]
    have hbare := window.bare_afterSteps_pause early late hresumed hstill
    have hdevice := congrArg Window.device hbare
    exact hdevice

/-- A program sets the sound timer to two and waits for a key.  The tone sounds in the first frame
and again behind a pause, until the timer is at zero. -/
theorem beeper_follows_machine_through_pause :
    ∃ created, Device.create .standard 0 = .ok created ∧
      let rom : Rom := ⟨[0x60, 0x02, 0xF0, 0x18, 0xF1, 0x0A], by decide⟩
      let device := created.after [.loadRom rom.bytes, .start]
      let late : List Action := [.update 0, .update 0]
      let plain := .update 0 :: late
      let interrupted := [.update 0, .events [pauseEvent], .update 0, .events [pauseEvent]] ++ late
      let opening := opened device rom "game" 12 (768, 384) ⟨0, 255, 0⟩ .working
      Effect.mixerOf (opening.value.effectsDuring interrupted) =
          [.play (-1), .stop, .play (-1), .stop] ∧
        (opening.value.after [.update 0]).beeper.playing = true ∧
        (opening.value.after interrupted).device = (opening.value.after plain).device := by
  refine ⟨_, rfl, ?_⟩
  intro rom device late plain interrupted opening
  obtain ⟨htold, htimer, hresumed⟩ :
      opening.value.toldDuring interrupted = [true, false, true, false] ∧
        0 < (opening.value.after [.update 0]).device.machine.cpu.sound ∧
        (opening.value.after [.update 0]).paused = false := by
    decide +kernel
  have hfollows := beeper_follows_machine device rom "game" 12 (768, 384) ⟨0, 255, 0⟩ .working
  have hopening : opened device rom "game" 12 (768, 384) ⟨0, 255, 0⟩ .working = opening := rfl
  rw [hopening] at hfollows
  obtain ⟨-, hworks, -, -, hpauses⟩ := hfollows
  obtain ⟨-, hcalls, -, -⟩ := hworks rfl interrupted
  obtain ⟨hfirst, -, -, -⟩ := hworks rfl []
  simp only [List.nil_append] at hfirst
  refine ⟨?_, (hfirst 0).2 ⟨hresumed, htimer⟩, ?_⟩
  · have hfour : Beeper.callsFor false [true, false, true, false] =
        [.play (-1), .stop, .play (-1), .stop] := by decide
    rw [hcalls, htold, hfour]
  · exact hpauses [.update 0] [.update 0] [.update 0, .update 0] plain interrupted
      hresumed (by simp [Step.isEvent]) rfl rfl

end Window
end Chip8
