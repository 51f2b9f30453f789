import Chip8.Program
import Chip8.Terminal

/-!
# The command

Runs the command with the real file system, the standard input for a keyboard and the standard
output for a screen.  There is no mixer; log entries go to the standard error output.
-/

namespace Chip8
namespace Main

/-- What is shown to a user who asks for help. -/
def helpText : String :=
  "usage: chip8vm [-h] [--speed SPEED] [--scale SCALE] [--profile PROFILE] [--font FONT]\n" ++
  "               [--color COLOR] [--seed SEED] [--log-level LEVEL] rom"

/-- Carries an effect out. -/
def perform (level : Log.Level) : Effect → IO Unit
  | .print line => IO.println line
  | .mixer _ => return ()
  | .log entry =>
    if level.rank ≤ entry.level.rank then
      IO.eprintln ("[" ++ entry.level.name ++ "] " ++ entry.source.name ++ ": " ++ entry.text)
    else return ()

/-- Carries the effects of an operation out, and gives its value. -/
def carryOut {α : Type} (level : Log.Level) (x : Effectful α) : IO α := do
  for effect in x.trace do
    perform level effect
  return x.value

/-- What a path leads to in the real file system. -/
def look (path : String) : IO Found := do
  try
    let data ← IO.FS.readBinFile path
    return .file data.toList
  catch
    | .noFileOrDirectory .. | .inappropriateType .. => return .missing
    | error => return .unreadable (toString error)

/-- Lines of text take whatever room they are given. -/
def display : Window.Display :=
  fun columns rows => .ok (columns, rows)

/-- Plays frame by frame, a line of input for each, until the input ends or the window is closed. -/
partial def play (level : Log.Level) (input : IO.FS.Stream) (held : List HostKey)
    (window : Window) : IO Unit := do
  let line ← input.getLine
  if line.isEmpty || !window.running then
    discard <| carryOut level window.silence
  else
    let keys := Terminal.keysOf line
    let delta := 1.0 / window.device.config.frameRate.toFloat
    let window ← carryOut level (window.pass ⟨Terminal.eventsBetween held keys, delta⟩)
    IO.println window.caption
    for row in Terminal.draw window.device.machine.screen do
      IO.println row
    play level input keys window

end Main
end Chip8

/-- Reads the arguments, opens the window and plays. -/
def main (arguments : List String) : IO UInt32 := do
  match Chip8.Options.parse arguments with
  | .error .help =>
    IO.println Chip8.Main.helpText
    return 0
  | .error exit =>
    IO.eprintln exit.complaint
    return UInt32.ofNat exit.status
  | .ok options =>
    let found ← Chip8.Main.look options.rom
    let entropy ← IO.rand 0 0xFFFFFFFF
    let mixer := Chip8.Mixer.failing "no audio device"
    let launched := Chip8.Program.launch options found Chip8.Main.display mixer entropy
    let opened ← Chip8.Main.carryOut options.logLevel launched
    match opened with
    | .ok window => Chip8.Main.play options.logLevel (← IO.getStdin) [] window
    | .error ending =>
      if let some complaint := ending.complaint? then IO.eprintln complaint
    return UInt32.ofNat (Chip8.Program.status opened)
