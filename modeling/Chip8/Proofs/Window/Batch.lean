import Mathlib.Data.List.Basic
import Chip8.Proofs.Device.KeyReports
import Chip8.Proofs.Device.RandomStream
import Chip8.Proofs.Device.Reset
import Chip8.Proofs.Window.Session

/-!
# Batches of events

A window handles all events that wait in one go.  `Window.value_handle` says what one event does: it
may close the window, pause or resume it, and ask something of the device (`HostEvent.requests`).  A
batch adds these up.  It closes the window if any event does, it pauses or resumes it as often as
its key is pressed, and the device is asked for what the events ask for, one after the other.

A restart wipes from the device what was asked of it before, for it keeps only what no event changes
(`Device.Kept`).  So the last restart of a batch decides, with the keys that are reported behind it
(`Window.device_handleEvents_restart`).
-/

namespace Chip8

/-! ## Requests that only set up and report -/

namespace Request

/-- Whether the request neither runs instructions nor loads a font. -/
def preserves (request : Request) : Bool :=
  !request.runs && !request.loadsFont

end Request

namespace Device

variable {device : Device} {requests : List Request}

/-- What a device keeps through a restart: its configuration, its font and its random bytes. -/
structure Kept (device later : Device) : Prop where
  config : later.config = device.config
  fontPlace : later.fontPlace = device.fontPlace
  random : later.machine.random = device.machine.random

theorem kept_serve (device : Device) {request : Request} (h : request.preserves = true) :
    device.Kept (device.serve request).device := by
  rw [Request.preserves, Bool.and_eq_true, Bool.not_eq_true', Bool.not_eq_true'] at h
  have hbecomes := becomes_serve device request
  exact ⟨hbecomes.config_eq, hbecomes.fontPlace_eq h.2, hbecomes.random_eq h.1⟩

theorem kept_after (device : Device) (h : ∀ request ∈ requests, request.preserves = true) :
    device.Kept (device.after requests) := by
  induction requests generalizing device with
  | nil => exact ⟨rfl, rfl, rfl⟩
  | cons request rest ih =>
    obtain ⟨hfirst, hrest⟩ := List.forall_mem_cons.1 h
    have hserved := device.kept_serve hfirst
    have hlater := ih (device.serve request).device hrest
    exact ⟨hlater.config.trans hserved.config, hlater.fontPlace.trans hserved.fontPlace,
      hlater.random.trans hserved.random⟩

/-- The device that runs a program from its start. -/
def restarted (device : Device) (rom : Rom) : Device :=
  { (device.load rom).value with running := true }

/-- A device that a program is loaded into has no fault, so that a start is not refused. -/
theorem after_load_start (device : Device) (rom : Rom) :
    device.after [.loadRom rom.bytes, .start] = device.restarted rom := by
  rw [after_cons, serve_loadRom_of_fits]
  rfl

/-- A restart shows nothing of the device but what a restart keeps. -/
theorem Kept.restarted_eq {later : Device} (h : device.Kept later) (rom : Rom) :
    later.restarted rom = device.restarted rom := by
  have hwiped : wipedMemory later.machine.memory = wipedMemory device.machine.memory :=
    wipedMemory_congr h.fontPlace
  simp only [restarted, value_load, h.config, hwiped, h.random]

/-- All that key reports make of a device that starts a program over is which keys are down. -/
theorem restarted_after_reports (device : Device) (rom : Rom) {reports : List Request}
    (hreports : ∀ request ∈ reports, request.reportsKey = true) :
    (device.restarted rom).after reports =
      (device.restarted rom).withSurface (reports.foldl Keypad.noting .released)
        (device.restarted rom).machine.memory := by
  have hready : (device.restarted rom).runState ≠ .waiting := RunState.noConfusion
  rw [after_of_reportsKey hready hreports]
  rfl

end Device

/-! ## One event -/

namespace HostKey

/-- What is told to a device about a key, if it stands for a key of the keypad. -/
def report? (key : HostKey) (pressed : Bool) : Option Request :=
  key.keypadKey?.map fun digit => .setKey digit.val pressed

end HostKey

namespace HostEvent

/-- What is told to a device about an event. -/
def report? : HostEvent → Option Request
  | keyDown key => key.report? true
  | keyUp key => key.report? false
  | quit => none

/-- Whether the event closes the window. -/
def closes (event : HostEvent) : Bool :=
  event = quit || event = keyDown .escape

theorem closes_iff {event : HostEvent} :
    event.closes = true ↔ event = quit ∨ event = keyDown .escape := by
  simp only [closes, Bool.or_eq_true, decide_eq_true_eq]

/-- What the event asks of the device of a window with a program. -/
def requests (rom : Rom) (event : HostEvent) : List Request :=
  if event = Window.restartEvent then [.loadRom rom.bytes, .start] else event.report?.toList

theorem requests_of_ne {event : HostEvent} (rom : Rom) (h : event ≠ Window.restartEvent) :
    event.requests rom = event.report?.toList :=
  if_neg h

theorem reportsKey_of_report? {event : HostEvent} {request : Request}
    (h : event.report? = some request) : request.reportsKey = true := by
  cases event with
  | quit => cases h
  | keyDown key | keyUp key =>
    obtain ⟨digit, -, rfl⟩ := Option.map_eq_some_iff.1 h
    rfl

theorem preserves_of_mem_requests {event : HostEvent} {rom : Rom} {request : Request}
    (h : request ∈ event.requests rom) : request.preserves = true := by
  by_cases hrestart : event = Window.restartEvent
  · rw [requests, if_pos hrestart] at h
    rcases List.mem_pair.1 h with rfl | rfl
    · rfl
    · rfl
  · rw [requests_of_ne rom hrestart, Option.mem_toList] at h
    have hreports := reportsKey_of_report? h
    cases request with
    | setKey id pressed => rfl
    | _ => cases hreports

end HostEvent

namespace Window

variable (window : Window)

theorem value_passKey (key : HostKey) (pressed : Bool) :
    (window.passKey key pressed).value =
      { window with device := window.device.after (key.report? pressed).toList } := by
  unfold passKey HostKey.report?
  cases key.keypadKey? with
  | none => rfl
  | some digit =>
    rw [Option.map_some, Option.toList_some, Device.after_cons, Device.after_nil,
      Device.serve_setKey, Key.ofInt?_val]
    rfl

theorem value_handle_of_ne {event : HostEvent} (hpause : event ≠ pauseEvent)
    (hrestart : event ≠ restartEvent) :
    (window.handle event).value =
      { window with
        device := window.device.after event.report?.toList
        running := window.running && !event.closes } := by
  cases event with
  | quit =>
    have hcloses : HostEvent.quit.closes = true := rfl
    rw [hcloses, Bool.not_true, Bool.and_false]
    rfl
  | keyUp key =>
    have hcloses : (HostEvent.keyUp key).closes = false := rfl
    rw [handle, value_passKey, hcloses, Bool.not_false, Bool.and_true]
    rfl
  | keyDown key =>
    by_cases hescape : key = .escape
    · subst hescape
      have hcloses : (HostEvent.keyDown .escape).closes = true := rfl
      rw [hcloses, Bool.not_true, Bool.and_false]
      rfl
    have hcloses : (HostEvent.keyDown key).closes = false := by
      simp only [HostEvent.closes, HostEvent.keyDown.injEq, hescape, reduceCtorEq, decide_false,
        Bool.or_false]
    have hpause' : key ≠ .pause := fun h => hpause (congrArg _ h)
    have hrestart' : key ≠ .backspace := fun h => hrestart (congrArg _ h)
    have hpass : window.handle (.keyDown key) = window.passKey key true := by
      simp only [handle, if_neg hescape, if_neg hpause', if_neg hrestart']
    rw [hpass, value_passKey, hcloses, Bool.not_false, Bool.and_true]
    rfl

/-- What an event makes of a window. -/
theorem value_handle (event : HostEvent) :
    (window.handle event).value =
      { window with
        device := window.device.after (event.requests window.rom)
        running := window.running && !event.closes
        paused := window.paused ^^ (event = pauseEvent)
        caption := if event = pauseEvent ∨ event = restartEvent then
            captionFor window.name (window.paused ^^ (event = pauseEvent)) none
          else window.caption } := by
  by_cases hpause : event = pauseEvent
  · subst hpause
    have hcloses : pauseEvent.closes = false := rfl
    have hrequests : pauseEvent.requests window.rom = [] := rfl
    have hhandle : (window.handle pauseEvent).value = window.togglePause := rfl
    simp only [hcloses, hrequests, hhandle, togglePause, writeCaption, Device.after_nil,
      Bool.not_false, Bool.and_true, decide_true, Bool.xor_true, true_or, if_true]
  by_cases hrestart : event = restartEvent
  · subst hrestart
    have hcloses : restartEvent.closes = false := rfl
    have hrequests : restartEvent.requests window.rom = [.loadRom window.rom.bytes, .start] := rfl
    have hhandle : (window.handle restartEvent).value = window.restart.value := rfl
    simp only [hcloses, hrequests, hhandle, value_restart, Device.after_load_start,
      Device.restarted, hpause, Bool.not_false, Bool.and_true, decide_false, Bool.xor_false,
      or_true, if_true]
  · rw [value_handle_of_ne window hpause hrestart, HostEvent.requests_of_ne _ hrestart]
    simp only [hpause, hrestart, decide_false, Bool.xor_false, or_self, if_false]

/-! ## Several events -/

section

variable (events later : List HostEvent)

theorem handleEvents_append :
    window.handleEvents (events ++ later) =
      window.handleEvents events >>= fun between => between.handleEvents later :=
  List.foldlM_append

theorem queue_handleEvents : (window.handleEvents events).value.queue = window.queue := by
  rw [value_handleEvents]
  induction events generalizing window with
  | nil => rfl
  | cons event rest ih => rw [List.foldl_cons, ih, value_handle]

theorem running_handleEvents :
    (window.handleEvents events).value.running = (window.running && !events.any (·.closes)) := by
  rw [value_handleEvents]
  induction events generalizing window with
  | nil => exact (Bool.and_true _).symm
  | cons event rest ih =>
    rw [List.foldl_cons, ih, value_handle, List.any_cons, Bool.not_or, Bool.and_assoc]

theorem not_any_closes_iff {events : List HostEvent} :
    (!events.any (·.closes)) = true ↔ .quit ∉ events ∧ .keyDown .escape ∉ events := by
  rw [Bool.not_eq_true', List.any_eq_false]
  constructor
  · intro hopen
    exact ⟨fun hquit => hopen _ hquit rfl, fun hescape => hopen _ hescape rfl⟩
  · rintro ⟨hquit, hescape⟩ event hmem hcloses
    rcases HostEvent.closes_iff.1 hcloses with rfl | rfl
    · exact hquit hmem
    · exact hescape hmem

theorem paused_handleEvents :
    (window.handleEvents events).value.paused =
      (window.paused ^^ events.count pauseEvent % 2 = 1) := by
  rw [value_handleEvents]
  induction events generalizing window with
  | nil => exact (Bool.xor_false _).symm
  | cons event rest ih =>
    rw [List.foldl_cons, ih, value_handle, Bool.xor_assoc, List.count_cons, Bits.decide_odd_add_ite,
      decide_eq_decide.2 beq_iff_eq]

theorem device_handleEvents :
    (window.handleEvents events).value.device =
      window.device.after (events.flatMap (·.requests window.rom)) := by
  rw [value_handleEvents]
  induction events generalizing window with
  | nil => rfl
  | cons event rest ih =>
    rw [List.foldl_cons, ih, value_handle, List.flatMap_cons, Device.after_append]

/-- Whether the window is still open makes no difference to what comes of events. -/
theorem value_handleEvents_closed :
    ({ window with running := false }.handleEvents events).value =
      { (window.handleEvents events).value with running := false } := by
  rw [value_handleEvents, value_handleEvents]
  induction events generalizing window with
  | nil => rfl
  | cons event rest ih =>
    have hclosed : ({ window with running := false }.handle event).value =
        { (window.handle event).value with running := false } := by
      rw [value_handle, value_handle, Bool.false_and]
    rw [List.foldl_cons, List.foldl_cons, hclosed, ih]

end

theorem value_handle_of_closes {event : HostEvent} (h : event.closes = true) :
    (window.handle event).value = { window with running := false } := by
  rcases HostEvent.closes_iff.1 h with rfl | rfl
  · rfl
  · rfl

theorem value_handleEvents_closing (early late : List HostEvent) {close : HostEvent}
    (h : close.closes = true) :
    (window.handleEvents (early ++ close :: late)).value =
      { (window.handleEvents (early ++ late)).value with running := false } := by
  have hcons (between : Window) : (between.handleEvents (close :: late)).value =
      ((between.handle close).value.handleEvents late).value := rfl
  rw [handleEvents_append, handleEvents_append, Traced.value_bind, Traced.value_bind, hcons,
    value_handle_of_closes _ h, value_handleEvents_closed]

/-! ## The last restart -/

theorem flatMap_requests (rom : Rom) {events : List HostEvent} (h : restartEvent ∉ events) :
    events.flatMap (·.requests rom) = events.filterMap HostEvent.report? := by
  rw [List.filterMap_eq_flatMap_toList]
  refine List.flatMap_congr fun event hmem => ?_
  exact HostEvent.requests_of_ne rom (ne_of_mem_of_not_mem hmem h)

theorem exists_last_restart {events : List HostEvent} (h : restartEvent ∈ events) :
    ∃ early late, events = early ++ restartEvent :: late ∧ restartEvent ∉ late := by
  -- The last one is the first from behind.
  obtain ⟨late, early, hsplit, hlate⟩ := List.eq_append_cons_of_mem (List.mem_reverse.2 h)
  refine ⟨early.reverse, late.reverse, ?_, fun hmem => hlate (List.mem_reverse.1 hmem)⟩
  rw [← List.reverse_reverse events, hsplit]
  simp only [List.reverse_append, List.reverse_cons, List.append_assoc, List.singleton_append]

/-- The last restart of some events leaves of those before it nothing. -/
theorem device_handleEvents_restart (early : List HostEvent) {late : List HostEvent}
    (h : restartEvent ∉ late) :
    (window.handleEvents (early ++ restartEvent :: late)).value.device =
      (window.device.restarted window.rom).after (late.filterMap HostEvent.report?) := by
  -- The events before it leave alone what a restart keeps, and the restart wipes the rest.
  let between := window.device.after (early.flatMap (·.requests window.rom))
  have hkept : window.device.Kept between := by
    refine window.device.kept_after fun request hmem => ?_
    obtain ⟨event, -, hrequest⟩ := List.mem_flatMap.1 hmem
    exact HostEvent.preserves_of_mem_requests hrequest
  have hrequests : restartEvent.requests window.rom = [.loadRom window.rom.bytes, .start] := rfl
  have hrestarted : between.after [.loadRom window.rom.bytes, .start] =
      window.device.restarted window.rom := by
    rw [Device.after_load_start, hkept.restarted_eq]
  rw [device_handleEvents, List.flatMap_append, List.flatMap_cons, flatMap_requests _ h, hrequests,
    Device.after_append, Device.after_append]
  exact congrArg (Device.after · _) hrestarted

/-! ## The queue -/

theorem handleQueue_post (batch : List HostEvent) :
    (window.post batch).handleQueue =
      { window with queue := [] }.handleEvents (window.queue ++ batch) := rfl

/-- Events that are handled leave none waiting, so that a batch may as well come in two. -/
theorem handleQueue_append (first second : List HostEvent) :
    (window.post (first ++ second)).handleQueue =
      (window.post first).handleQueue >>= fun between => (between.post second).handleQueue := by
  rw [handleQueue_post, handleQueue_post, ← List.append_assoc, handleEvents_append]
  generalize hfirst : { window with queue := [] }.handleEvents (window.queue ++ first) = handled
  have hqueue : handled.value.queue = [] := by
    rw [← hfirst, queue_handleEvents]
  have hsecond : (handled.value.post second).handleQueue = handled.value.handleEvents second := by
    rw [handleQueue_post, hqueue, List.nil_append, ← hqueue]
  exact Traced.ext (by rw [Traced.value_bind, Traced.value_bind, hsecond])
    (by rw [Traced.trace_bind, Traced.trace_bind, hsecond])

/-- A window handles the events that wait and a batch behind them.  It is closed if one of them
closes it, and paused or resumed by an odd number of presses of that key.  Without a restart its
device is the one that the events are reported to.  With a restart it is the one that the program is
loaded into, which starts, and which the events behind the last restart are reported to: nothing is
left of the faults, the keys and the wait for a key from before, and the random bytes and the font
are those of the device.  An event that closes the window does not hide those behind it, and a batch
that comes in two has the same effects. -/
theorem batch_handled (batch : List HostEvent) :
    let events := window.queue ++ batch
    let later := (window.post batch).handleQueue.value
    (later.running = true ↔
      window.running = true ∧ .quit ∉ events ∧ .keyDown .escape ∉ events) ∧
    later.paused = (window.paused ^^ events.count pauseEvent % 2 = 1) ∧
    (restartEvent ∉ events →
      later.device = window.device.after (events.filterMap HostEvent.report?)) ∧
    (restartEvent ∈ events →
      ∃ early late, events = early ++ restartEvent :: late ∧ restartEvent ∉ late ∧
        let loaded := window.device.serve (.loadRom window.rom.bytes)
        let started := (loaded.device.serve .start).device
        let reports := late.filterMap HostEvent.report?
        loaded.outcome = .ok #[] ∧
        later.device = started.after reports ∧
        later.device =
          started.withSurface (reports.foldl Keypad.noting .released) started.machine.memory ∧
        later.device.running = true ∧ later.device.fault = none ∧
        later.device.awaitingKey = false ∧
        later.device.machine.random = window.device.machine.random ∧
        later.device.fontPlace = window.device.fontPlace) ∧
    (∀ early close late, events = early ++ close :: late →
      close = .quit ∨ close = .keyDown .escape →
        later = { ({ window with queue := early ++ late }.handleQueue).value with
          running := false }) ∧
    ∀ first second, batch = first ++ second →
      (window.post batch).handleQueue =
        (window.post first).handleQueue >>= fun between => (between.post second).handleQueue := by
  intro events later
  let idle : Window := { window with queue := [] }
  have hlater : later = (idle.handleEvents events).value := rfl
  refine ⟨?_, ?_, fun hnone => ?_, fun hrestart => ?_, fun early close late hsplit hclose => ?_,
    fun first second hsplit => ?_⟩
  · rw [hlater, running_handleEvents, Bool.and_eq_true]
    exact and_congr_right fun _ => not_any_closes_iff
  · rw [hlater]
    exact idle.paused_handleEvents events
  · rw [hlater, device_handleEvents, flatMap_requests _ hnone]
  · obtain ⟨early, late, hsplit, hlate⟩ := exists_last_restart hrestart
    refine ⟨early, late, hsplit, hlate, ?_⟩
    intro loaded started reports
    have hloaded : loaded = .ofLogged (window.device.load window.rom) :=
      window.device.serve_loadRom_of_fits window.rom
    have hstarted : started = window.device.restarted window.rom :=
      window.device.after_load_start window.rom
    have hdevice : later.device = started.after reports := by
      rw [hlater, hsplit, device_handleEvents_restart idle early hlate, hstarted]
    have hreports : ∀ request ∈ reports, request.reportsKey = true := by
      intro request hmem
      obtain ⟨event, -, hreport⟩ := List.mem_filterMap.1 hmem
      exact HostEvent.reportsKey_of_report? hreport
    have hsurface : later.device =
        started.withSurface (reports.foldl Keypad.noting .released) started.machine.memory := by
      rw [hdevice, hstarted, Device.restarted_after_reports _ _ hreports]
    refine ⟨by rw [hloaded]; rfl, hdevice, hsurface, ?_⟩
    rw [hsurface, hstarted]
    exact ⟨rfl, rfl, rfl, rfl, window.device.fontPlace_load window.rom⟩
  · rw [hlater, hsplit]
    exact idle.value_handleEvents_closing early late (HostEvent.closes_iff.2 hclose)
  · rw [hsplit]
    exact window.handleQueue_append first second

/-- A jump to the last byte of memory halts the device.  Then a batch pauses the window, closes it,
reports a key, starts the program over and reports another one. -/
theorem batch_handled_after_fault :
    ∃ created, Device.create .standard 0 = .ok created ∧
      let rom : Rom := ⟨[0x1F, 0xFF], by decide⟩
      let device := created.after [.loadRom rom.bytes, .start]
      let batch : List HostEvent :=
        [pauseEvent, .keyDown .escape, .keyDown (.char 'q'), restartEvent, .keyDown (.char 'x')]
      let opening := opened device rom "game" 12 (768, 384) ⟨0, 255, 0⟩ .working
      let window := opening.value.after [.update 0]
      let later := (window.post batch).handleQueue.value
      window.device.fault.isSome = true ∧ window.queue = [] ∧
        restartEvent ∈ batch ∧ .keyDown .escape ∈ batch ∧
        later.running = false ∧ later.paused = true ∧
        later.device.running = true ∧ later.device.fault = none := by
  refine ⟨_, rfl, ?_⟩
  intro rom device batch opening window later
  obtain ⟨hfault, hqueue, hresumed⟩ :
      window.device.fault.isSome = true ∧ window.queue = [] ∧ window.paused = false := by
    decide +kernel
  obtain ⟨hrunning, hpaused, -, hrestarts, -, -⟩ := batch_handled window batch
  have hrestart : restartEvent ∈ batch := by decide
  have hescape : HostEvent.keyDown .escape ∈ batch := by decide
  obtain ⟨early, late, -, -, -, -, -, hstarted, hnone, -⟩ :=
    hrestarts (List.mem_append_right _ hrestart)
  have hlater : later = (window.post batch).handleQueue.value := rfl
  rw [← hlater] at hstarted hnone
  have hclosed : later.running = false := by
    refine Bool.eq_false_iff.2 fun hopen => ?_
    exact (hrunning.1 hopen).2.2 (List.mem_append_right _ hescape)
  have hodd : (false ^^ ([] ++ batch).count pauseEvent % 2 = 1) = true := by decide
  rw [hqueue, hresumed, hodd] at hpaused
  exact ⟨hfault, hqueue, hrestart, hescape, hclosed, hpaused, hstarted, hnone⟩

end Window
end Chip8
