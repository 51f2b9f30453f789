import Chip8.Beeper
import Chip8.Device
import Chip8.Keyboard
import Chip8.Picture

/-!
# The window

A `Window` is the host of a device: it passes the keys of the keyboard on, lets the device run a
frame at a time, sounds the beeper and shows the screen.  A key pauses and resumes, another
starts the program over, and a third closes the window; an event that closes the window does not
keep the events behind it from being handled.  Events wait in a queue until the window handles
all that are there, and a window that is closed leaves them where they are.

The title line of the window, its caption, tells the program's name, whether the window is
paused and whether a fault halted the device.  It is written anew when one of these changes: a
pause or a restart writes it without a fault, and the fault's frame writes it with the fault.

How large a window can be is for the display to say, which is asked as a window opens
(`Window.create`).  `Window.run` is the main loop.
-/

namespace Chip8

/-- A device with its keyboard, its picture and its sound. -/
structure Window where
  device : Device
  /-- The program, for a restart. -/
  rom : Rom
  name : String
  /-- How many columns and rows of the window are asked for to make one pixel. -/
  scale : Nat
  /-- The number of columns and of rows of the window. -/
  size : Nat × Nat
  color : Color
  beeper : Beeper
  running : Bool
  paused : Bool
  caption : String
  /-- The events that wait to be handled, oldest first. -/
  queue : List HostEvent

namespace Window

/-- The enlargement of pixels unless another is asked for. -/
def defaultScale : Int := 12

/-- The strength of the glow around lit pixels. -/
def bloom : Float := 0.55

/-- The title line for a program, a pause and, where there is one, a fault. -/
def captionFor (name : String) (paused : Bool) (fault : Option Fault) : String :=
  "chip8vm - " ++ name ++ (if paused then " [paused]" else "") ++
    match fault with
    | none => ""
    | some fault => " [halted: " ++ fault.message ++ "]"

/-- Writes the caption for the window's name and pause. -/
def writeCaption (window : Window) (fault : Option Fault) : Window :=
  { window with caption := captionFor window.name window.paused fault }

/-- What a display answers to being asked for columns and rows: the size of the window that it
opens, or why it opens none. -/
abbrev Display := Nat → Nat → Except String (Nat × Nat)

/-- The window of a device as it opens. -/
def opened (device : Device) (rom : Rom) (name : String) (scale : Nat) (size : Nat × Nat)
    (color : Color) (mixer : Mixer) : Effectful Window := do
  let beeper ← Beeper.standard mixer
  return {
    device, rom, name, scale, size, color, beeper
    running := true
    paused := false
    caption := captionFor name false none
    queue := [] }

/-- Opens a window for a device, if the display does.  Pixels are at least one column and row
large. -/
def create (device : Device) (rom : Rom) (name : String) (scale : Int) (color : Color)
    (display : Display) (mixer : Mixer) : Except String (Effectful Window) := do
  let scale := (max 1 scale).toNat
  let size ← display (screenWidth * scale) (screenHeight * scale)
  return opened device rom name scale size color mixer

/-! ## Events -/

/-- Starts the program over. -/
def restart (window : Window) : Effectful Window := do
  let device ← (window.device.load window.rom).logged
  let device ← device.start.logged
  return { window with device }.writeCaption none

/-- Pauses or resumes. -/
def togglePause (window : Window) : Window :=
  { window with paused := !window.paused }.writeCaption none

/-- Passes a key on to the device, if it stands for a key of the keypad. -/
def passKey (window : Window) (key : HostKey) (pressed : Bool) : Effectful Window :=
  match key.keypadKey? with
  | none => return window
  | some key => do
    let device ← (window.device.setKey key pressed).logged
    return { window with device }

/-- Handles one event. -/
def handle (window : Window) : HostEvent → Effectful Window
  | .quit => return { window with running := false }
  | .keyDown key =>
    if key = .escape then return { window with running := false }
    else if key = HostKey.pause then return window.togglePause
    else if key = .backspace then window.restart
    else window.passKey key true
  | .keyUp key => window.passKey key false

/-- Handles events in order. -/
def handleEvents (window : Window) (events : List HostEvent) : Effectful Window :=
  events.foldlM handle window

/-- Puts events behind those that wait. -/
def post (window : Window) (events : List HostEvent) : Window :=
  { window with queue := window.queue ++ events }

/-- Handles the events that wait. -/
def handleQueue (window : Window) : Effectful Window :=
  { window with queue := [] }.handleEvents window.queue

/-! ## Frames -/

/-- Takes note of a message of the device. -/
def receive (window : Window) : Message → Effectful Window
  | .fault fault => return window.writeCaption (some fault)
  | .unknownOpcode word => do
    Traced.report (.log (.unknownReported word))
    return window
  | .waitingForKey _ => return window

/-- Lets the device run a frame that took `delta` seconds, and sounds the beeper accordingly.
While the window is paused, the device stands still and the beeper is silent. -/
def update (window : Window) (delta : Float) : Effectful Window :=
  if window.paused then do
    let beeper ← window.beeper.update false
    return { window with beeper }
  else do
    let ran := window.device.tick delta
    let device ← Traced.logged ⟨ran.device, ran.log⟩
    let window ← ran.messages.toList.foldlM receive { window with device }
    let beeper ← window.beeper.update window.device.soundActive
    return { window with beeper }

/-- `update` for a frame for whose time there is no number.  If the device takes notice of the time,
the frame breaks off and only counts. -/
def updateUntimed (window : Window) : Except Window (Effectful Window) :=
  match window.device.tickUntimed with
  | .error device => if window.paused then .ok (window.update 0) else .error { window with device }
  | .ok _ => .ok (window.update 0)

/-- The picture of the device's screen, as columns from left to right. -/
def picture (window : Window) : Grid screenWidth screenHeight Rgb :=
  let lit := Picture.brightness window.device.machine.screen
  Picture.ofGrid lit (Picture.tint window.color Color.background) bloom

/-- What one pass of the main loop works on: the events since the last pass, and the seconds
that it took. -/
structure Pass where
  events : List HostEvent
  delta : Float

/-- One pass of the main loop: the events and then a frame. -/
def pass (window : Window) (next : Pass) : Effectful Window := do
  let window ← (window.post next.events).handleQueue
  window.update next.delta

/-- Switches the beeper off. -/
def silence (window : Window) : Effectful Window := do
  let beeper ← window.beeper.update false
  return { window with beeper }

/-- The main loop: a pass after the other until the window is closed or nothing more comes, and
then silence. -/
def run (window : Window) : List Pass → Effectful Window
  | [] => window.silence
  | next :: rest =>
    if window.running then do
      let window ← window.pass next
      window.run rest
    else window.silence

end Window
end Chip8
